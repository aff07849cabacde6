import ExtractApi.BudgetGuard
import ExtractApi.TransitionSystem

/-!
# The budget under concurrent requests

Any number of requests pass `ExtractAdmission`, check the budget, run, add their cost
and leave, interleaved one lock section, one read and one write at a time.  `check`
and `add` are separate sections of one lock with the billed run between them, so a
request that has passed can still add after others reached the cap.

The requests that can still add (`Gate.passers`) hold a slot each.  Once the total has
reached the cap no request joins them, every add takes one away, and the add that
reached the cap is itself no longer one of them; so at most `L - 1` follow it.
-/

namespace ExtractApi

open TransitionSystem

variable {ι : Type} [DecidableEq ι]

/-- Where a request is. -/
inductive Phase where
  | waiting
  | admitted
  /-- inside the lock section of `check` -/
  | checking
  /-- `check` has read this total and released the lock -/
  | seen (spent : ℚ)
  | running
  /-- inside the lock section of `add`, before `_spent` is read -/
  | adding (cost : ℚ)
  /-- inside the lock section of `add`, after `_spent` was read -/
  | loaded (cost spent : ℚ)
  | finished
  | left

/-- `ExtractAdmission` and the guard behind it. -/
structure Gate (ι : Type) where
  budget : BudgetGuard
  /-- the holder of `BudgetGuard._lock` -/
  lock : Option ι
  /-- the slots taken of the `CapacityLimiter` -/
  borrowers : Finset ι
  phase : ι → Phase

/-- A new process: nothing spent, no request admitted. -/
def Gate.initial (cap : ℚ) : Gate ι where
  budget := { cap := cap }
  lock := none
  borrowers := ∅
  phase _ := .waiting

def Gate.setPhase (s : Gate ι) (r : ι) (p : Phase) : Gate ι :=
  { s with phase := Function.update s.phase r p }

/-- One step of one request. -/
inductive Section (ι : Type) where
  | borrow (r : ι)
  | lockForCheck (r : ι)
  | readTotal (r : ι)
  | pass (r : ι)
  | refuse (r : ι)
  | lockForAdd (r : ι)
  | loadTotal (r : ι)
  | storeTotal (r : ι) (cost : ℚ)
  | abandon (r : ι)
  | leave (r : ι)

/-- The request that takes the step. -/
def Section.request : Section ι → ι
  | .borrow r | .lockForCheck r | .readTotal r | .pass r | .refuse r | .lockForAdd r
  | .loadTotal r | .storeTotal r _ | .abandon r | .leave r => r

def Section.isAdd : Section ι → Bool
  | .storeTotal _ _ => true
  | _ => false

/-- The cost of a completed add. -/
def Section.added : Section ι → ℚ
  | .storeTotal _ cost => cost
  | _ => 0

/-- The steps of the requests, with `L` slots and costs in `[0, C]`. -/
inductive AdmissionStep (L : ℕ) (C : ℚ) : Gate ι → Section ι → Gate ι → Prop where
  | borrow {s : Gate ι} {r : ι} (hphase : s.phase r = .waiting) (hfree : s.borrowers.card < L) :
      AdmissionStep L C s (.borrow r)
        { s.setPhase r .admitted with borrowers := insert r s.borrowers }
  | lockForCheck {s : Gate ι} {r : ι} (hphase : s.phase r = .admitted) (hlock : s.lock = none) :
      AdmissionStep L C s (.lockForCheck r) { s.setPhase r .checking with lock := some r }
  | readTotal {s : Gate ι} {r : ι} (hphase : s.phase r = .checking) :
      AdmissionStep L C s (.readTotal r)
        { s.setPhase r (.seen s.budget.spent) with lock := none }
  | pass {s : Gate ι} {r : ι} {spent : ℚ} (hphase : s.phase r = .seen spent)
      (hpasses : s.budget.passes spent = true) :
      AdmissionStep L C s (.pass r) (s.setPhase r .running)
  | refuse {s : Gate ι} {r : ι} {spent : ℚ} (hphase : s.phase r = .seen spent)
      (hpasses : s.budget.passes spent = false) :
      AdmissionStep L C s (.refuse r) (s.setPhase r .finished)
  | lockForAdd {s : Gate ι} {r : ι} {cost : ℚ} (hphase : s.phase r = .running)
      (hlock : s.lock = none) (hnonneg : 0 ≤ cost) (hbound : cost ≤ C) :
      AdmissionStep L C s (.lockForAdd r) { s.setPhase r (.adding cost) with lock := some r }
  | loadTotal {s : Gate ι} {r : ι} {cost : ℚ} (hphase : s.phase r = .adding cost) :
      AdmissionStep L C s (.loadTotal r) (s.setPhase r (.loaded cost s.budget.spent))
  | storeTotal {s : Gate ι} {r : ι} {cost spent : ℚ} (hphase : s.phase r = .loaded cost spent) :
      AdmissionStep L C s (.storeTotal r cost)
        { s.setPhase r .finished with
          budget := ({ s.budget with spent := spent } : BudgetGuard).charge cost
          lock := none }
  /-- A request that never checks, or whose run ends without an add. -/
  | abandon {s : Gate ι} {r : ι} (hphase : s.phase r = .admitted ∨ s.phase r = .running) :
      AdmissionStep L C s (.abandon r) (s.setPhase r .finished)
  | leave {s : Gate ι} {r : ι} (hphase : s.phase r = .finished) :
      AdmissionStep L C s (.leave r)
        { s.setPhase r .left with borrowers := s.borrowers.erase r }

/-! ## What holds in every state -/

def Phase.holdsSlot : Phase → Bool
  | .waiting | .left => false
  | _ => true

def Phase.holdsLock : Phase → Bool
  | .checking | .adding _ | .loaded _ _ => true
  | _ => false

/-- The cost a request is adding is within the bound, and the total it has read is the
    one it will overwrite. -/
def Phase.Faithful (C spent : ℚ) : Phase → Prop
  | .adding cost => 0 ≤ cost ∧ cost ≤ C
  | .loaded cost read => 0 ≤ cost ∧ cost ≤ C ∧ read = spent
  | _ => True

structure Coherent (L : ℕ) (C : ℚ) (s : Gate ι) : Prop where
  slots : ∀ r, r ∈ s.borrowers ↔ (s.phase r).holdsSlot = true
  limit : s.borrowers.card ≤ L
  locked : ∀ r, (s.phase r).holdsLock = true ↔ s.lock = some r
  faithful : ∀ r, (s.phase r).Faithful C s.budget.spent

variable {L : ℕ} {C : ℚ} {s t : Gate ι} {l : Section ι}

@[simp] theorem Gate.phase_setPhase (s : Gate ι) (r : ι) (p : Phase) :
    (s.setPhase r p).phase = Function.update s.phase r p := rfl

@[simp] theorem Gate.borrowers_setPhase (s : Gate ι) (r : ι) (p : Phase) :
    (s.setPhase r p).borrowers = s.borrowers := rfl

@[simp] theorem Gate.budget_setPhase (s : Gate ι) (r : ι) (p : Phase) :
    (s.setPhase r p).budget = s.budget := rfl

@[simp] theorem Gate.lock_setPhase (s : Gate ι) (r : ι) (p : Phase) :
    (s.setPhase r p).lock = s.lock := rfl

theorem forall_update {P : ι → Phase → Prop} {phase : ι → Phase} {r : ι} {p : Phase}
    (hp : P r p) (h : ∀ r', r' ≠ r → P r' (phase r')) :
    ∀ r', P r' (Function.update phase r p r') := by
  intro r'
  by_cases hr : r' = r
  · subst hr
    rwa [Function.update_self]
  · rw [Function.update_of_ne hr]
    exact h r' hr

theorem Coherent.setPhase (h : Coherent L C s) {r : ι} {p : Phase}
    (hslot : p.holdsSlot = (s.phase r).holdsSlot) (hlock : p.holdsLock = (s.phase r).holdsLock)
    (hfaithful : p.Faithful C s.budget.spent) : Coherent L C (s.setPhase r p) where
  slots := forall_update (P := fun r' p => r' ∈ s.borrowers ↔ p.holdsSlot = true)
    (hslot ▸ h.slots r) fun r' _ => h.slots r'
  limit := h.limit
  locked := forall_update (P := fun r' p => p.holdsLock = true ↔ s.lock = some r')
    (hlock ▸ h.locked r) fun r' _ => h.locked r'
  faithful := forall_update (P := fun _ p => p.Faithful C s.budget.spent) hfaithful
    fun r' _ => h.faithful r'

theorem Coherent.acquire (h : Coherent L C s) {r : ι} {p : Phase}
    (hslot : p.holdsSlot = (s.phase r).holdsSlot) (hlock : p.holdsLock = true)
    (hfaithful : p.Faithful C s.budget.spent) (hnone : s.lock = none) :
    Coherent L C { s.setPhase r p with lock := some r } where
  slots := forall_update (P := fun r' p => r' ∈ s.borrowers ↔ p.holdsSlot = true)
    (hslot ▸ h.slots r) fun r' _ => h.slots r'
  limit := h.limit
  locked := by
    refine forall_update (P := fun r' p => p.holdsLock = true ↔ some r = some r')
      (by simp [hlock]) fun r' hr => ?_
    rw [h.locked r', hnone]
    simp [Ne.symm hr]
  faithful := forall_update (P := fun _ p => p.Faithful C s.budget.spent) hfaithful
    fun r' _ => h.faithful r'

omit [DecidableEq ι] in
/-- Nobody but the holder of the lock has a total read for an add. -/
theorem Coherent.faithful_of_lock (h : Coherent L C s) {r r' : ι} (hr : s.lock = some r)
    (hne : r' ≠ r) (spent : ℚ) : (s.phase r').Faithful C spent := by
  have hfree : (s.phase r').holdsLock = false := by
    by_contra hheld
    have hr' := (h.locked r').mp (by simpa using hheld)
    rw [hr] at hr'
    exact hne (Option.some.inj hr').symm
  cases hphase : s.phase r' <;> simp_all [Phase.holdsLock, Phase.Faithful]

/-- The holder of the lock releases it, whatever it wrote to the total. -/
theorem Coherent.release (h : Coherent L C s) {r : ι} {p : Phase} {budget : BudgetGuard}
    (hslot : p.holdsSlot = (s.phase r).holdsSlot) (hheld : (s.phase r).holdsLock = true)
    (hlock : p.holdsLock = false) (hfaithful : p.Faithful C budget.spent) :
    Coherent L C { s.setPhase r p with budget := budget, lock := none } := by
  have hr := (h.locked r).mp hheld
  constructor
  case slots =>
    exact forall_update (P := fun r' p => r' ∈ s.borrowers ↔ p.holdsSlot = true)
      (hslot ▸ h.slots r) fun r' _ => h.slots r'
  case limit => exact h.limit
  case locked =>
    refine forall_update (P := fun r' p => p.holdsLock = true ↔ none = some r')
      (by simp [hlock]) fun r' hne => ?_
    rw [h.locked r', hr]
    simp [Ne.symm hne]
  case faithful =>
    exact forall_update (P := fun _ p => p.Faithful C budget.spent) hfaithful
      fun r' hne => h.faithful_of_lock hr hne budget.spent

theorem AdmissionStep.coherent (hinv : Coherent L C s) (h : AdmissionStep L C s l t) :
    Coherent L C t := by
  cases h with
  | @borrow r hphase hfree =>
    constructor
    case slots =>
      refine forall_update
        (P := fun r' p => r' ∈ insert r s.borrowers ↔ p.holdsSlot = true)
        (by simp [Phase.holdsSlot]) fun r' hne => ?_
      rw [Finset.mem_insert, or_iff_right hne]
      exact hinv.slots r'
    case limit => exact (Finset.card_insert_le r s.borrowers).trans hfree
    case locked =>
      refine forall_update (P := fun r' p => p.holdsLock = true ↔ s.lock = some r') ?_
        fun r' _ => hinv.locked r'
      rw [← hinv.locked r, hphase]
      rfl
    case faithful =>
      exact forall_update (P := fun _ p => p.Faithful C s.budget.spent) trivial
        fun r' _ => hinv.faithful r'
  -- the lock is taken, given back, or not touched by a step of its own request
  | lockForCheck hphase hlock =>
    exact hinv.acquire (by rw [hphase]; rfl) rfl trivial hlock
  | readTotal hphase =>
    exact hinv.release (by rw [hphase]; rfl) (by rw [hphase]; rfl) rfl trivial
  | pass hphase => exact hinv.setPhase (by rw [hphase]; rfl) (by rw [hphase]; rfl) trivial
  | refuse hphase => exact hinv.setPhase (by rw [hphase]; rfl) (by rw [hphase]; rfl) trivial
  | lockForAdd hphase hlock hnonneg hbound =>
    exact hinv.acquire (by rw [hphase]; rfl) rfl ⟨hnonneg, hbound⟩ hlock
  | @loadTotal r cost hphase =>
    have hcost := hinv.faithful r
    rw [hphase] at hcost
    exact hinv.setPhase (by rw [hphase]; rfl) (by rw [hphase]; rfl) ⟨hcost.1, hcost.2, rfl⟩
  | storeTotal hphase =>
    exact hinv.release (by rw [hphase]; rfl) (by rw [hphase]; rfl) rfl trivial
  | abandon hphase =>
    rcases hphase with hphase | hphase <;>
      exact hinv.setPhase (by rw [hphase]; rfl) (by rw [hphase]; rfl) trivial
  | @leave r hphase =>
    constructor
    case slots =>
      refine forall_update
        (P := fun r' p => r' ∈ s.borrowers.erase r ↔ p.holdsSlot = true)
        (by simp [Phase.holdsSlot]) fun r' hne => ?_
      rw [Finset.mem_erase, and_iff_right hne]
      exact hinv.slots r'
    case limit => exact (Finset.card_erase_le).trans hinv.limit
    case locked =>
      refine forall_update (P := fun r' p => p.holdsLock = true ↔ s.lock = some r') ?_
        fun r' _ => hinv.locked r'
      rw [← hinv.locked r, hphase]
      rfl
    case faithful =>
      exact forall_update (P := fun _ p => p.Faithful C s.budget.spent) trivial
        fun r' _ => hinv.faithful r'

omit [DecidableEq ι] in
theorem Coherent.initial (cap : ℚ) : Coherent L C (Gate.initial cap : Gate ι) where
  slots _ := by simp [Gate.initial, Phase.holdsSlot]
  limit := by simp [Gate.initial]
  locked _ := by simp [Gate.initial, Phase.holdsLock]
  faithful _ := trivial

/-! ## The total -/

theorem AdmissionStep.cap_eq (h : AdmissionStep L C s l t) : t.budget.cap = s.budget.cap := by
  cases h <;> rfl

/-- A step changes the total by the cost it adds: no update is lost. -/
theorem AdmissionStep.spent_eq (hinv : Coherent L C s) (h : AdmissionStep L C s l t) :
    t.budget.spent = s.budget.spent + l.added := by
  cases h with
  | @storeTotal r cost spent hphase =>
    have hread := hinv.faithful r
    rw [hphase] at hread
    show spent + cost = s.budget.spent + cost
    rw [hread.2.2]
  | _ => exact (add_zero _).symm

theorem AdmissionStep.added_bounds (hinv : Coherent L C s) (h : AdmissionStep L C s l t)
    (hC : 0 ≤ C) : 0 ≤ l.added ∧ l.added ≤ C := by
  cases h with
  | @storeTotal r cost spent hphase =>
    have hread := hinv.faithful r
    rw [hphase] at hread
    exact ⟨hread.1, hread.2.1⟩
  | _ => exact ⟨le_refl 0, hC⟩

/-! ## The requests that can still add -/

/-- The request has passed, or will pass on the total it has read. -/
def Phase.mayAdd (budget : BudgetGuard) : Phase → Bool
  | .seen spent => budget.passes spent
  | .running | .adding _ | .loaded _ _ => true
  | _ => false

/-- The requests that can still add without another reading of the total. -/
def Gate.passers (s : Gate ι) : Finset ι :=
  s.borrowers.filter fun r => (s.phase r).mayAdd s.budget

theorem mayAdd_congr {b b' : BudgetGuard} (h : b'.cap = b.cap) (p : Phase) :
    p.mayAdd b' = p.mayAdd b := by
  cases p <;> simp [Phase.mayAdd, BudgetGuard.passes, BudgetGuard.enabled, h]

omit [DecidableEq ι] in
theorem mem_passers {s : Gate ι} {r : ι} (hinv : Coherent L C s) :
    r ∈ s.passers ↔ (s.phase r).mayAdd s.budget = true := by
  unfold Gate.passers
  rw [Finset.mem_filter, and_iff_right_iff_imp, hinv.slots r]
  cases s.phase r <;> simp [Phase.mayAdd, Phase.holdsSlot]

theorem BudgetGuard.passes_of_cap_le {b : BudgetGuard} {spent : ℚ} (hcap : 0 < b.cap)
    (h : b.cap ≤ spent) : b.passes spent = false := by
  simp [BudgetGuard.passes, BudgetGuard.enabled, hcap, h]

theorem AdmissionStep.phase_of_ne (h : AdmissionStep L C s l t) {r : ι} (hr : r ≠ l.request) :
    t.phase r = s.phase r := by
  cases h <;> exact Function.update_of_ne hr _ _

/-- Once the cap is reached, nobody joins the requests that can still add. -/
theorem AdmissionStep.mayAdd_of (h : AdmissionStep L C s l t) (hcap : 0 < s.budget.cap)
    (hreached : s.budget.cap ≤ s.budget.spent) {r : ι}
    (hmay : (t.phase r).mayAdd t.budget = true) : (s.phase r).mayAdd s.budget = true := by
  rw [mayAdd_congr h.cap_eq] at hmay
  by_cases hr : r = l.request
  · subst hr
    cases h with
    | readTotal hphase =>
      simp [Section.request, Phase.mayAdd, BudgetGuard.passes_of_cap_le hcap hreached] at hmay
    | pass hphase hpasses => simpa [Section.request, hphase, Phase.mayAdd] using hpasses
    | lockForAdd hphase => simp [Section.request, hphase, Phase.mayAdd]
    | loadTotal hphase => simp [Section.request, hphase, Phase.mayAdd]
    | _ => simp [Section.request, Phase.mayAdd] at hmay
  · rwa [h.phase_of_ne hr] at hmay

theorem AdmissionStep.passers_subset (hinv : Coherent L C s) (h : AdmissionStep L C s l t)
    (hcap : 0 < s.budget.cap) (hreached : s.budget.cap ≤ s.budget.spent) :
    t.passers ⊆ s.passers := by
  intro r hr
  exact (mem_passers hinv).mpr
    (h.mayAdd_of hcap hreached ((mem_passers (h.coherent hinv)).mp hr))

/-- The request that adds could add before, holds its slot still, and cannot add again. -/
theorem AdmissionStep.adder (hinv : Coherent L C s) (h : AdmissionStep L C s l t)
    (hadd : l.isAdd = true) :
    l.request ∈ s.passers ∧ l.request ∈ t.borrowers ∧ l.request ∉ t.passers := by
  have hinv' := h.coherent hinv
  cases h with
  | @storeTotal r cost spent hphase =>
    refine ⟨(mem_passers hinv).mpr ?_, (hinv'.slots r).mpr ?_, fun hmem => ?_⟩
    · simp [Section.request, hphase, Phase.mayAdd]
    · simp [Phase.holdsSlot]
    · simpa [Section.request, Phase.mayAdd] using (mem_passers hinv').mp hmem
  | _ => cases hadd

/-- After an add, fewer than `L` requests can still add. -/
theorem AdmissionStep.card_passers_lt (hinv : Coherent L C s) (h : AdmissionStep L C s l t)
    (hadd : l.isAdd = true) : t.passers.card < L := by
  obtain ⟨-, hslot, hgone⟩ := h.adder hinv hadd
  have hlt : t.passers.card < t.borrowers.card :=
    Finset.card_lt_card ⟨Finset.filter_subset _ _, fun hsub => hgone (hsub hslot)⟩
  exact hlt.trans_le (h.coherent hinv).limit

/-- Once the cap is reached, an add takes a request away from those that can still add. -/
theorem AdmissionStep.card_passers_add (hinv : Coherent L C s) (h : AdmissionStep L C s l t)
    (hadd : l.isAdd = true) (hcap : 0 < s.budget.cap)
    (hreached : s.budget.cap ≤ s.budget.spent) : t.passers.card < s.passers.card := by
  obtain ⟨hcould, -, hgone⟩ := h.adder hinv hadd
  exact Finset.card_lt_card
    ⟨h.passers_subset hinv hcap hreached, fun hsub => hgone (hsub hcould)⟩

/-! ## The bound -/

/-- Below the cap, or close enough that the requests that can still add stay within it. -/
def WithinBound (L : ℕ) (C : ℚ) (s : Gate ι) : Prop :=
  s.budget.spent < s.budget.cap ∨
    s.budget.spent + C * s.passers.card < s.budget.cap + L * C

theorem AdmissionStep.added_of_not_isAdd (h : AdmissionStep L C s l t) (hadd : l.isAdd = false) :
    l.added = 0 := by
  cases h with
  | storeTotal => cases hadd
  | _ => rfl

theorem AdmissionStep.withinBound (hinv : Coherent L C s) (h : AdmissionStep L C s l t)
    (hcap : 0 < s.budget.cap) (hC : 0 ≤ C) (hbound : WithinBound L C s) :
    WithinBound L C t := by
  have hspent := h.spent_eq hinv
  have hcost := h.added_bounds hinv hC
  unfold WithinBound at hbound ⊢
  rw [h.cap_eq]
  cases hadd : l.isAdd with
  | true =>
    right
    by_cases hreached : s.budget.cap ≤ s.budget.spent
    · -- an add above the cap: one passer less pays for the cost
      have hcard : (t.passers.card : ℚ) + 1 ≤ s.passers.card := by
        exact_mod_cast h.card_passers_add hinv hadd hcap hreached
      have hpay := mul_le_mul_of_nonneg_left hcard hC
      rcases hbound with hbelow | hbound <;> linarith
    · -- the add that reaches the cap: fewer than `L` can follow it
      have hcard : (t.passers.card : ℚ) + 1 ≤ L := by
        exact_mod_cast h.card_passers_lt hinv hadd
      have hpay := mul_le_mul_of_nonneg_left hcard hC
      linarith
  | false =>
    rw [h.added_of_not_isAdd hadd, add_zero] at hspent
    rw [hspent]
    rcases hbound with hbelow | hbound
    · exact Or.inl hbelow
    · by_cases hreached : s.budget.cap ≤ s.budget.spent
      · have hcard : (t.passers.card : ℚ) ≤ s.passers.card := by
          exact_mod_cast Finset.card_le_card (h.passers_subset hinv hcap hreached)
        have hless := mul_le_mul_of_nonneg_left hcard hC
        exact Or.inr (by linarith)
      · exact Or.inl (not_le.mp hreached)

/-! ## A request refused -/

/-- The request has called `check` and cannot pass it. -/
def Phase.cannotPass (budget : BudgetGuard) : Phase → Prop
  | .checking | .finished | .left => True
  | .seen spent => budget.passes spent = false
  | _ => False

/-- Once the cap is reached, a request that is in `check` can never pass it. -/
theorem AdmissionStep.cannotPass (h : AdmissionStep L C s l t) (hcap : 0 < s.budget.cap)
    (hreached : s.budget.cap ≤ s.budget.spent) {r : ι}
    (hr : (s.phase r).cannotPass s.budget) : (t.phase r).cannotPass t.budget := by
  have hcongr : ∀ p : Phase, p.cannotPass s.budget → p.cannotPass t.budget := by
    intro p hp
    cases p with
    | seen spent =>
      simpa [Phase.cannotPass, BudgetGuard.passes, BudgetGuard.enabled, h.cap_eq] using hp
    | _ => exact hp
  apply hcongr
  by_cases hmoved : r = l.request
  · subst hmoved
    cases h with
    | readTotal hphase =>
      simp [Section.request, Phase.cannotPass, BudgetGuard.passes_of_cap_le hcap hreached]
    | pass hphase hpasses =>
      simp [Section.request, hphase, Phase.cannotPass, hpasses] at hr
    | refuse => simp [Section.request, Phase.cannotPass]
    | storeTotal => simp [Section.request, Phase.cannotPass]
    | abandon => simp [Section.request, Phase.cannotPass]
    | leave => simp [Section.request, Phase.cannotPass]
    | borrow hphase => simp [Section.request, hphase, Phase.cannotPass] at hr
    | lockForCheck hphase => simp [Section.request, hphase, Phase.cannotPass] at hr
    | lockForAdd hphase => simp [Section.request, hphase, Phase.cannotPass] at hr
    | loadTotal hphase => simp [Section.request, hphase, Phase.cannotPass] at hr
  · rwa [h.phase_of_ne hmoved]

/-! ## Executions -/

section

variable {n : ℕ} {e : Execution (AdmissionStep (ι := ι) L C) n} {cap : ℚ}

theorem coherent_at (h0 : e.state 0 = Gate.initial cap) {i : ℕ} (hi : i ≤ n) :
    Coherent L C (e.state i) :=
  e.invariant (h0 ▸ Coherent.initial cap) (fun _ _ _ hinv hstep => hstep.coherent hinv) hi

theorem cap_at (h0 : e.state 0 = Gate.initial cap) {i : ℕ} (hi : i ≤ n) :
    (e.state i).budget.cap = cap := by
  have hstart : (e.state 0).budget.cap = cap := by
    rw [h0]
    rfl
  have hstep : ∀ (s : Gate ι) l t, s.budget.cap = cap → AdmissionStep L C s l t →
      t.budget.cap = cap :=
    fun s l t hinv hstep => hstep.cap_eq.trans hinv
  exact e.invariant hstart hstep hi

theorem spent_at (h0 : e.state 0 = Gate.initial cap) {i : ℕ} (hi : i ≤ n) :
    (e.state i).budget.spent = ∑ j ∈ Finset.range i, (e.label j).added := by
  induction i with
  | zero => rw [h0]; rfl
  | succ i ih =>
    rw [(e.steps i (by omega)).spent_eq (coherent_at h0 (by omega)), ih (by omega),
      Finset.sum_range_succ]

theorem spent_at_mono (h0 : e.state 0 = Gate.initial cap) (hC : 0 ≤ C) {i j : ℕ} (hij : i ≤ j)
    (hj : j ≤ n) : (e.state i).budget.spent ≤ (e.state j).budget.spent := by
  rw [spent_at h0 (hij.trans hj), spent_at h0 hj]
  refine Finset.sum_le_sum_of_subset_of_nonneg (Finset.range_subset_range.mpr hij) ?_
  intro m hm _
  have hm : m < n := lt_of_lt_of_le (Finset.mem_range.mp hm) hj
  exact ((e.steps m hm).added_bounds (coherent_at h0 hm.le) hC).1

/-- Above the cap, the adds made and the requests that can still add never grow in sum. -/
theorem adds_le_passers (h0 : e.state 0 = Gate.initial cap) (hcap : 0 < cap) (hC : 0 ≤ C)
    {i j : ℕ} (hij : i ≤ j) (hj : j ≤ n) (hreached : cap ≤ (e.state i).budget.spent) :
    ((Finset.Ico i j).filter fun m => (e.label m).isAdd).card + (e.state j).passers.card ≤
      (e.state i).passers.card := by
  induction j, hij using Nat.le_induction with
  | base => simp
  | succ j hij ih =>
    have hinv := coherent_at h0 (by omega : j ≤ n)
    have hstep := e.steps j (by omega)
    have hcapj := cap_at h0 (by omega : j ≤ n)
    have hspent : (e.state j).budget.cap ≤ (e.state j).budget.spent :=
      hcapj.symm ▸ hreached.trans (spent_at_mono h0 hC hij (by omega))
    have ih := ih (by omega)
    rw [Nat.Ico_succ_right_eq_insert_Ico hij, Finset.filter_insert]
    by_cases hadd : (e.label j).isAdd = true
    · have hless := hstep.card_passers_add hinv hadd (hcapj.symm ▸ hcap) hspent
      rw [if_pos hadd, Finset.card_insert_of_notMem (by simp)]
      omega
    · have hless := Finset.card_le_card (hstep.passers_subset hinv (hcapj.symm ▸ hcap) hspent)
      rw [if_neg hadd]
      omega

theorem withinBound_at (h0 : e.state 0 = Gate.initial cap) (hcap : 0 < cap) (hC : 0 ≤ C) {i : ℕ}
    (hi : i ≤ n) : WithinBound L C (e.state i) :=
  e.preserves (P := WithinBound L C) (Nat.zero_le i) (Or.inl (by rw [h0]; exact hcap))
    fun m _ hm hbound => (e.steps m (by omega)).withinBound (coherent_at h0 (by omega))
      ((cap_at h0 (by omega : m ≤ n)).symm ▸ hcap) hC hbound

theorem not_pass_of_reached (h0 : e.state 0 = Gate.initial cap) (hcap : 0 < cap) (hC : 0 ≤ C)
    {r : ι} {i j k : ℕ} (hij : i ≤ j) (hjk : j < k) (hk : k < n)
    (hreached : cap ≤ (e.state i).budget.spent) (hcheck : e.label j = .lockForCheck r) :
    e.label k ≠ .pass r := by
  intro hpass
  have hafter : ((e.state (j + 1)).phase r).cannotPass (e.state (j + 1)).budget := by
    have hstep := e.steps j (by omega)
    rw [hcheck] at hstep
    generalize e.state (j + 1) = t at hstep ⊢
    cases hstep with
    | lockForCheck hphase hlock => simp [Phase.cannotPass]
  have hstill := e.preserves (P := fun s => (s.phase r).cannotPass s.budget)
    (by omega : j + 1 ≤ k) hafter fun m hjm hmk hm => by
      have hcapm := cap_at h0 (by omega : m ≤ n)
      exact (e.steps m (by omega)).cannotPass (hcapm.symm ▸ hcap)
        (hcapm.symm ▸ hreached.trans (spent_at_mono h0 hC (by omega) (by omega))) hm
  have hstep := e.steps k hk
  rw [hpass] at hstep
  generalize e.state (k + 1) = t at hstep
  cases hstep with
  | pass hphase hpasses => simp [hphase, Phase.cannotPass, hpasses] at hstill

end

/-- **Overshoot is bounded by the requests in flight, and no update of the total is lost**,
    for any number of requests and any interleaving: the total is the sum of the completed
    adds; a check called once the cap is reached does not pass; at most `L - 1` adds follow
    the add that reached the cap; and the total stays below `cap + L * C`. -/
theorem budget_overshoot_bounded {n : ℕ} (e : Execution (AdmissionStep (ι := ι) L C) n)
    {cap : ℚ} (hcap : 0 < cap) (hC : 0 ≤ C) (h0 : e.state 0 = Gate.initial cap) :
    (∀ i ≤ n, (e.state i).budget.spent = ∑ j ∈ Finset.range i, (e.label j).added) ∧
    (∀ r i j k, i ≤ j → j < k → k < n → cap ≤ (e.state i).budget.spent →
      e.label j = .lockForCheck r → e.label k ≠ .pass r) ∧
    (∀ i < n, (e.state i).budget.spent < cap → cap ≤ (e.state (i + 1)).budget.spent →
      ((Finset.Ico (i + 1) n).filter fun j => (e.label j).isAdd).card ≤ L - 1) ∧
    ∀ i ≤ n, (e.state i).budget.spent < cap + L * C := by
  refine ⟨fun i hi => spent_at h0 hi, fun r i j k hij hjk hk => not_pass_of_reached h0 hcap hC
    hij hjk hk, ?_, ?_⟩
  · intro i hi hbelow hreached
    have hstep := e.steps i hi
    have hinv := coherent_at h0 hi.le
    have hadd : (e.label i).isAdd = true := by
      by_contra hnot
      have hspent := hstep.spent_eq hinv
      rw [hstep.added_of_not_isAdd (by simpa using hnot)] at hspent
      linarith
    have hafter := hstep.card_passers_lt hinv hadd
    have hadds := adds_le_passers h0 hcap hC (by omega : i + 1 ≤ n) (le_refl n) hreached
    omega
  · intro i hi
    have hLC : 0 ≤ (L : ℚ) * C := mul_nonneg (Nat.cast_nonneg L) hC
    have hbound := withinBound_at h0 hcap hC hi
    unfold WithinBound at hbound
    rw [cap_at h0 hi] at hbound
    have hpassers : 0 ≤ C * ((e.state i).passers.card : ℚ) :=
      mul_nonneg hC (Nat.cast_nonneg _)
    rcases hbound with hbelow | hbound <;> linarith

/-! ### Two requests that pass below the cap -/

/-- The gate after a step, where every run costs 1. -/
def Gate.after (s : Gate Bool) : Section Bool → Gate Bool
  | .borrow r => { s.setPhase r .admitted with borrowers := insert r s.borrowers }
  | .lockForCheck r => { s.setPhase r .checking with lock := some r }
  | .readTotal r => { s.setPhase r (.seen s.budget.spent) with lock := none }
  | .pass r => s.setPhase r .running
  | .lockForAdd r => { s.setPhase r (.adding 1) with lock := some r }
  | .loadTotal r => s.setPhase r (.loaded 1 s.budget.spent)
  | .storeTotal r cost =>
      { s.setPhase r .finished with
        budget := s.budget.charge cost
        lock := none }
  | .refuse r | .abandon r => s.setPhase r .finished
  | .leave r => { s.setPhase r .left with borrowers := s.borrowers.erase r }

/-- Both read the total before either adds to it. -/
def overlapSections : List (Section Bool) :=
  [.borrow false, .lockForCheck false, .borrow true, .readTotal false, .lockForCheck true,
    .pass false, .readTotal true, .lockForAdd false, .pass true, .loadTotal false,
    .storeTotal false 1, .lockForAdd true, .loadTotal true, .storeTotal true 1, .leave false]

/-- Two slots, a cap of 1, and two requests that add 1 each. -/
def overlapRun : Execution (AdmissionStep (ι := Bool) 2 1) 15 where
  state i := (overlapSections.take i).foldl Gate.after (Gate.initial 1)
  label i := overlapSections.getD i (.leave true)
  steps i hi := by
    interval_cases i
    · exact .borrow rfl (by decide)
    · exact .lockForCheck rfl rfl
    · exact .borrow rfl (by decide)
    · exact .readTotal rfl
    · exact .lockForCheck rfl rfl
    · exact @AdmissionStep.pass _ _ _ _ _ _ 0 rfl (by decide +kernel)
    · exact .readTotal rfl
    · exact .lockForAdd rfl rfl (by norm_num) (le_refl 1)
    · exact @AdmissionStep.pass _ _ _ _ _ _ 0 rfl (by decide +kernel)
    · exact .loadTotal rfl
    · exact .storeTotal rfl
    · exact .lockForAdd rfl rfl (by norm_num) (le_refl 1)
    · exact .loadTotal rfl
    · exact .storeTotal rfl
    · exact .leave rfl

theorem budget_overshoot_bounded_overlap :
    (∀ i ≤ 15, (overlapRun.state i).budget.spent =
      ∑ j ∈ Finset.range i, (overlapRun.label j).added) ∧
    ((Finset.Ico 11 15).filter fun j => (overlapRun.label j).isAdd).card ≤ 2 - 1 ∧
    (overlapRun.state 15).budget.spent < 1 + (2 : ℕ) * 1 := by
  obtain ⟨hspent, -, hadds, hbound⟩ :=
    budget_overshoot_bounded overlapRun (by norm_num) (by norm_num) rfl
  exact ⟨hspent, hadds 10 (by decide) (by decide +kernel) (by decide +kernel),
    hbound 15 (le_refl 15)⟩

/-- The cap is overshot. -/
example : (overlapRun.state 15).budget.spent = 2 := by decide +kernel

end ExtractApi
