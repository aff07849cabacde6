import ExtractApi.IdempotencyStore
import ExtractApi.TransitionSystem

/-!
# One store file, many clients

Any number of clients run the store's operations against one file, one SQL statement
or clock read at a time, in any order.  Between its statements a client keeps what
it has read: the row of its `SELECT`, the row it found expired and will delete, or
the cutoff of its sweep.

A delete is decided on an old reading and executed arbitrarily later, after others
may have deleted and inserted the same key.  `SafeDeletes` is what makes it harmless:
every decided delete can only meet rows that are expired already, and since the clock
never goes back it stays so.  Hence no statement removes or changes an unexpired row,
and two gets of one key answer the same row.
-/

namespace ExtractApi

open PythonText TransitionSystem

variable {C : Type} [DecidableEq C]

/-- Where a client is within its operation. -/
inductive Pending where
  | idle
  /-- a `get` whose `SELECT` returned this row and that has yet to judge its age -/
  | selected (key : PyStr) (stored : StoredResponse)
  /-- a `get` that found the row expired and has yet to delete it -/
  | deleting (key : PyStr) (createdAtEpoch : ℚ)
  /-- a `sweep` that has computed its cutoff and has yet to delete -/
  | sweeping (cutoff : ℚ)

structure SharedStore (C : Type) where
  clock : ℚ
  store : SqliteIdempotencyStore
  pending : C → Pending

/-- One atomic step, by the client that takes it; `tick` is the passing of time. -/
inductive Statement (C : Type) where
  | tick
  | select (c : C) (key : PyStr)
  | answer (c : C) (stored : StoredResponse)
  | expire (c : C)
  | delete (c : C)
  | insert (c : C) (key : PyStr) (stored : StoredResponse)
  | readCutoff (c : C)
  | sweep (c : C)

def Statement.client : Statement C → Option C
  | .tick => none
  | .select c _ | .answer c _ | .expire c | .delete c | .insert c _ _ | .readCutoff c
  | .sweep c => some c

/-- The state with client `c` moved on. -/
def SharedStore.setPending (s : SharedStore C) (c : C) (p : Pending) : SharedStore C :=
  { s with pending := Function.update s.pending c p }

/-- What a client keeps of its `SELECT`: no row ends the `get` at once. -/
def selectedOf (key : PyStr) : Option StoredResponse → Pending
  | none => .idle
  | some stored => .selected key stored

inductive StoreStep : SharedStore C → Statement C → SharedStore C → Prop where
  | tick {s : SharedStore C} {now : ℚ} (hnow : s.clock ≤ now) :
      StoreStep s .tick { s with clock := now }
  | select {s : SharedStore C} {c : C} {key : PyStr} (hidle : s.pending c = .idle) :
      StoreStep s (.select c key) (s.setPending c (selectedOf key (s.store.selectRow key)))
  /-- `_is_expired` reads the clock: a row within its time to live is the answer. -/
  | answer {s : SharedStore C} {c : C} {key : PyStr} {stored : StoredResponse}
      (hselected : s.pending c = .selected key stored)
      (hage : s.store.isExpired s.clock stored = false) :
      StoreStep s (.answer c stored) (s.setPending c .idle)
  | expire {s : SharedStore C} {c : C} {key : PyStr} {stored : StoredResponse}
      (hselected : s.pending c = .selected key stored)
      (hage : s.store.isExpired s.clock stored = true) :
      StoreStep s (.expire c) (s.setPending c (.deleting key stored.createdAtEpoch))
  | delete {s : SharedStore C} {c : C} {key : PyStr} {created : ℚ}
      (hdeleting : s.pending c = .deleting key created) :
      StoreStep s (.delete c)
        { s.setPending c .idle with store := s.store.deleteExpired key created }
  | insert {s : SharedStore C} {c : C} {key : PyStr} {stored : StoredResponse}
      (hidle : s.pending c = .idle) :
      StoreStep s (.insert c key stored) { s with store := s.store.put key stored }
  | readCutoff {s : SharedStore C} {c : C} (hidle : s.pending c = .idle) :
      StoreStep s (.readCutoff c) (s.setPending c (.sweeping (s.store.cutoff s.clock)))
  | sweep {s : SharedStore C} {c : C} {cutoff : ℚ} (hsweeping : s.pending c = .sweeping cutoff) :
      StoreStep s (.sweep c) { s.setPending c .idle with store := s.store.deleteBefore cutoff }

variable {s t : SharedStore C} {l : Statement C}

/-! ## What every step respects -/

theorem StoreStep.clock_le (h : StoreStep s l t) : s.clock ≤ t.clock := by
  cases h with
  | tick hnow => exact hnow
  | _ => exact le_refl _

theorem StoreStep.ttlSeconds_eq (h : StoreStep s l t) :
    t.store.ttlSeconds = s.store.ttlSeconds := by
  cases h <;> rfl

/-- A step of one client leaves the others where they are. -/
theorem StoreStep.pending_eq (h : StoreStep s l t) {c : C} (hc : l.client ≠ some c) :
    t.pending c = s.pending c := by
  have hne : ∀ {c' : C}, some c' ≠ some c → c ≠ c' := fun h heq => h (congrArg some heq.symm)
  cases h with
  | tick => rfl
  | insert => rfl
  | _ => exact Function.update_of_ne (hne hc) _ _

/-! ## Decided deletes -/

/-- A delete decided on can only meet rows older than the time to live. -/
def Pending.SafeDelete (ttl clock : ℚ) : Pending → Prop
  | .deleting _ created => ttl < clock - created
  | .sweeping cutoff => cutoff ≤ clock - ttl
  | _ => True

theorem Pending.SafeDelete.later {ttl clock clock' : ℚ} {p : Pending}
    (h : p.SafeDelete ttl clock) (hle : clock ≤ clock') : p.SafeDelete ttl clock' := by
  cases p with
  | idle => trivial
  | selected key stored => trivial
  | deleting key created =>
    simp only [Pending.SafeDelete] at h ⊢
    linarith
  | sweeping cutoff =>
    simp only [Pending.SafeDelete] at h ⊢
    linarith

/-- Every delete that a client has decided on is safe. -/
def SafeDeletes (s : SharedStore C) : Prop :=
  ∀ c, (s.pending c).SafeDelete s.store.ttlSeconds s.clock

theorem SafeDeletes.setPending (h : SafeDeletes s) {c : C} {p : Pending}
    (hp : p.SafeDelete s.store.ttlSeconds s.clock) : SafeDeletes (s.setPending c p) := by
  intro c'
  by_cases hc : c' = c
  · subst hc
    show Pending.SafeDelete _ _ (Function.update s.pending c' p c')
    rw [Function.update_self]
    exact hp
  · show Pending.SafeDelete _ _ (Function.update s.pending c p c')
    rw [Function.update_of_ne hc]
    exact h c'

theorem StoreStep.safeDeletes (hsafe : SafeDeletes s) (h : StoreStep s l t) : SafeDeletes t := by
  cases h with
  | tick hnow =>
    intro c
    exact (hsafe c).later hnow
  | @select c key hidle =>
    refine hsafe.setPending ?_
    cases s.store.selectRow key <;> trivial
  | answer => exact hsafe.setPending trivial
  | expire hselected hage =>
    exact hsafe.setPending (s.store.isExpired_eq_true_iff.mp hage)
  | delete hdeleting => exact hsafe.setPending (p := .idle) trivial
  | insert => exact hsafe
  | readCutoff => exact hsafe.setPending (le_refl _)
  | sweep hsweeping => exact hsafe.setPending (p := .idle) trivial

/-- **No statement removes or changes an unexpired row.** -/
theorem StoreStep.selectRow_of_unexpired (hsafe : SafeDeletes s) (h : StoreStep s l t)
    {key : PyStr} {stored : StoredResponse} (hrow : s.store.selectRow key = some stored)
    (hage : s.store.isExpired s.clock stored = false) :
    t.store.selectRow key = some stored := by
  have hyoung := s.store.isExpired_eq_false_iff.mp hage
  cases h with
  | @delete c key' created hdeleting =>
    have hold := hsafe c
    rw [hdeleting] at hold
    have hne : stored.createdAtEpoch ≠ created := by
      rintro rfl
      exact absurd hold (not_lt.mpr hyoung)
    show (s.store.deleteExpired key' created).selectRow key = _
    rw [SqliteIdempotencyStore.selectRow_deleteExpired, hrow]
    simp [hne]
  | @sweep c cutoff hsweeping =>
    have hold := hsafe c
    rw [hsweeping] at hold
    simp only [Pending.SafeDelete] at hold
    show (s.store.deleteBefore cutoff).selectRow key = _
    rw [SqliteIdempotencyStore.selectRow_deleteBefore, hrow]
    simp only [Option.filter_eq_some_iff, true_and, Bool.not_eq_true', decide_eq_false_iff_not]
    linarith
  | @insert c key' stored' =>
    show (s.store.put key' stored').selectRow key = _
    rw [SqliteIdempotencyStore.selectRow_put, hrow]
    rfl
  | _ => exact hrow

/-! ## Executions -/

/-- No operation is under way. -/
def SharedStore.Quiet (s : SharedStore C) : Prop := ∀ c, s.pending c = .idle

variable {n : ℕ} {e : Execution (StoreStep (C := C)) n}

theorem clock_at_mono {i j : ℕ} (hij : i ≤ j) (hj : j ≤ n) :
    (e.state i).clock ≤ (e.state j).clock :=
  e.relates (R := fun s t => s.clock ≤ t.clock) (fun _ => le_refl _)
    (fun _ _ _ => le_trans) (fun _ _ _ => StoreStep.clock_le) hij hj

theorem ttlSeconds_at {i j : ℕ} (hij : i ≤ j) (hj : j ≤ n) :
    (e.state j).store.ttlSeconds = (e.state i).store.ttlSeconds :=
  e.relates (R := fun s t => t.store.ttlSeconds = s.store.ttlSeconds) (fun _ => rfl)
    (fun _ _ _ h h' => h'.trans h) (fun _ _ _ => StoreStep.ttlSeconds_eq) hij hj

theorem safeDeletes_at (hquiet : (e.state 0).Quiet) {i : ℕ} (hi : i ≤ n) :
    SafeDeletes (e.state i) := by
  have hstart : SafeDeletes (e.state 0) := by
    intro c
    rw [hquiet c]
    trivial
  exact e.invariant hstart (fun _ _ _ => StoreStep.safeDeletes) hi

theorem isExpired_of_later {i j : ℕ} (hij : i ≤ j) (hj : j ≤ n) {stored : StoredResponse}
    (h : (e.state j).store.isExpired (e.state j).clock stored = false) :
    (e.state i).store.isExpired (e.state i).clock stored = false := by
  rw [SqliteIdempotencyStore.isExpired_eq_false_iff] at h ⊢
  have hclock := clock_at_mono (e := e) hij hj
  rw [ttlSeconds_at (e := e) hij hj] at h
  linarith

/-- A row that is unexpired at a later moment is still there then. -/
theorem selectRow_of_later (hquiet : (e.state 0).Quiet) {i j : ℕ} (hij : i ≤ j) (hj : j ≤ n)
    {key : PyStr} {stored : StoredResponse}
    (hrow : (e.state i).store.selectRow key = some stored)
    (hage : (e.state j).store.isExpired (e.state j).clock stored = false) :
    (e.state j).store.selectRow key = some stored :=
  e.preserves (P := fun s => s.store.selectRow key = some stored) hij hrow
    fun m _ hmj hm => (e.steps m (by omega)).selectRow_of_unexpired
      (safeDeletes_at hquiet (by omega)) hm (isExpired_of_later (by omega : m ≤ j) hj hage)

/-- In the execution, some client's `get` of `key` selects at step `i` and answers
    `stored` at step `j`. -/
def GetAnswers (e : Execution (StoreStep (C := C)) n) (key : PyStr) (i j : ℕ)
    (stored : StoredResponse) : Prop :=
  ∃ c, i < j ∧ j < n ∧ e.label i = .select c key ∧ e.label j = .answer c stored ∧
    ∀ m, i < m → m < j → (e.label m).client ≠ some c

/-- A `get` answers the row its `SELECT` read, unexpired when it answers. -/
theorem GetAnswers.row {key : PyStr} {i j : ℕ} {stored : StoredResponse}
    (h : GetAnswers e key i j stored) :
    (e.state i).store.selectRow key = some stored ∧
      (e.state j).store.isExpired (e.state j).clock stored = false := by
  obtain ⟨c, hij, hj, hselect, hanswer, halone⟩ := h
  have hfirst : (e.state (i + 1)).pending c =
      selectedOf key ((e.state i).store.selectRow key) := by
    have hstep := e.steps i (by omega)
    rw [hselect] at hstep
    generalize e.state (i + 1) = t at hstep ⊢
    cases hstep with
    | select hidle => exact Function.update_self ..
  have hkept : (e.state j).pending c = selectedOf key ((e.state i).store.selectRow key) :=
    e.preserves (P := fun s => s.pending c = _) (by omega : i + 1 ≤ j) hfirst fun m him hmj hm =>
      ((e.steps m (by omega)).pending_eq (halone m (by omega) hmj)).trans hm
  have hstep := e.steps j hj
  rw [hanswer] at hstep
  generalize e.state (j + 1) = t at hstep
  cases hstep with
  | answer hselected hage =>
    rw [hselected] at hkept
    refine ⟨?_, hage⟩
    cases hrow : (e.state i).store.selectRow key with
    | none => rw [hrow] at hkept; cases hkept
    | some stored' => rw [hrow] at hkept; cases hkept; rfl

/-- **No live replay row is ever lost or changed**, for any number of clients, any
    contents of the file and any interleaving: a row whose age is at most the time to live
    survives every step; and two gets of one key answer the identical row when the first
    row is unexpired at the second get, as does every get of that key between them. -/
theorem live_rows_stable (e : Execution (StoreStep (C := C)) n)
    (hquiet : (e.state 0).Quiet) :
    (∀ i < n, ∀ key stored, (e.state i).store.selectRow key = some stored →
      (e.state i).store.isExpired (e.state i).clock stored = false →
      (e.state (i + 1)).store.selectRow key = some stored) ∧
    ∀ key i₁ j₁ i₂ j₂ first second, GetAnswers e key i₁ j₁ first →
      GetAnswers e key i₂ j₂ second → i₁ ≤ i₂ →
      (e.state i₂).store.isExpired (e.state i₂).clock first = false →
      second = first ∧ ∀ i j between, i₁ ≤ i → i ≤ i₂ → GetAnswers e key i j between →
        between = first := by
  have hsame : ∀ key i₁ j₁ i j first row, GetAnswers e key i₁ j₁ first →
      GetAnswers e key i j row → i₁ ≤ i →
      (e.state i).store.isExpired (e.state i).clock first = false → row = first := by
    intro key i₁ j₁ i j first row hfirst hget hle hage
    have hi : i ≤ n := by
      obtain ⟨c, hij, hj, -⟩ := hget
      omega
    have hrow := selectRow_of_later hquiet hle hi hfirst.row.1 hage
    exact Option.some.inj (hget.row.1.symm.trans hrow)
  constructor
  · intro i hi key stored hrow hage
    exact (e.steps i hi).selectRow_of_unexpired (safeDeletes_at hquiet hi.le) hrow hage
  · intro key i₁ j₁ i₂ j₂ first second hfirst hsecond hle hage
    refine ⟨hsame _ _ _ _ _ _ _ hfirst hsecond hle hage, ?_⟩
    intro i j between hi hi' hbetween
    have hi₂ : i₂ ≤ n := by
      obtain ⟨c, hij, hj, -⟩ := hsecond
      omega
    exact hsame _ _ _ _ _ _ _ hfirst hbetween hi (isExpired_of_later hi' hi₂ hage)

/-! ### A read during a sweep -/

/-- A row created at 0, in a store with a time to live of one hour. -/
def firstRow : StoredResponse := ⟨py "a", py "first", 200, 0⟩

def oneRowStore : SqliteIdempotencyStore :=
  { ttlHours := 1
    storeId := py "store"
    idempotency := KeyedTable.empty.insertOrIgnore ⟨py "k", firstRow⟩ }

def atRest : SharedStore Bool := ⟨0, oneRowStore, fun _ => .idle⟩

/-- One client has selected the row. -/
def reading : SharedStore Bool := atRest.setPending true (.selected (py "k") firstRow)

/-- Another has computed the cutoff of a sweep. -/
def readingAndSweeping : SharedStore Bool :=
  reading.setPending false (.sweeping (oneRowStore.cutoff 0))

def answered : SharedStore Bool := readingAndSweeping.setPending true .idle

def swept : SharedStore Bool :=
  { answered.setPending false .idle with
    store := oneRowStore.deleteBefore (oneRowStore.cutoff 0) }

def readDuringSweep : Execution (StoreStep (C := Bool)) 4 where
  state
    | 0 => atRest
    | 1 => reading
    | 2 => readingAndSweeping
    | 3 => answered
    | _ => swept
  label
    | 0 => .select true (py "k")
    | 1 => .readCutoff false
    | 2 => .answer true firstRow
    | _ => .sweep false
  steps i hi := by
    interval_cases i
    · exact StoreStep.select (s := atRest) rfl
    · exact StoreStep.readCutoff (s := reading) rfl
    · exact @StoreStep.answer _ _ readingAndSweeping true (py "k") _ rfl (by decide +kernel)
    · exact StoreStep.sweep (s := answered) rfl

/-- The sweep leaves the row that was read before it. -/
theorem live_rows_stable_readDuringSweep :
    (readDuringSweep.state 4).store.selectRow (py "k") = some firstRow :=
  (live_rows_stable readDuringSweep fun _ => rfl).1 3 (by decide) (py "k") firstRow rfl
    (by decide +kernel)

end ExtractApi
