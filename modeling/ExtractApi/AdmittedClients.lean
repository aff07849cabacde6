import ExtractApi.KeyedClients

/-!
# Keyed requests behind the admission gate

Each process over the store file has an `ExtractAdmission` of its own, and a request acts on
the store only while it holds one of that process's slots.  Requests of one key that overlap
may each run the extraction (`KeyedClients`); what the gate adds is a bound on how many.

A request that answers from a run of its own while the row of its key is live selected before
the row was there (`busy_of_live`), so it held a slot when the row was inserted; and nobody
answers so twice (`insertsOf_le_busy`).  Hence there are at most as many such answers as slots.
-/

namespace ExtractApi.KeyedClients

open PythonText TransitionSystem

variable {C P : Type} [DecidableEq C] [DecidableEq P]

/-! ## Who is busy with a key -/

/-- The request that a client is within. -/
def Stage.request : Stage → Option KeyedRequest
  | .selected request _ | .deleting request _ | .running request | .storing request _ =>
      some request
  | .idle | .sweeping _ => none

/-- The clients within a request of `key`. -/
def Busy (s : System C) (key : PyStr) : Set C :=
  {c | ∃ request, request.key = key ∧ (s.stage c).request = some request}

variable {s t : System C} {l : Event C} {c : C}

@[simp] theorem request_afterSelect (request : KeyedRequest) (row : Option StoredResponse) :
    (afterSelect request row).request = some request := by
  cases row <;> rfl

/-- A request begins with its `SELECT`. -/
theorem KeyedStep.select_of_request (h : KeyedStep s l t) {request : KeyedRequest}
    (hbefore : (s.stage c).request ≠ some request)
    (hafter : (t.stage c).request = some request) :
    t.stage c = afterSelect request (s.store.selectRow request.key) := by
  rcases h.stage_cases c with heq | ⟨action, store, -, hmove⟩
  · rw [heq] at hafter
    exact absurd hafter hbefore
  · generalize s.stage c = before at hmove hbefore
    generalize t.stage c = after at hmove hafter
    cases hmove with
    | select request' =>
      rw [request_afterSelect] at hafter
      cases hafter
      rfl
    | expire | delete | respond => exact absurd hafter hbefore
    | _ => cases hafter

/-- While a row in hand is unexpired, its request stays with it or ends. -/
theorem KeyedStep.selected_of_request (h : KeyedStep s l t) {request : KeyedRequest}
    {stored : StoredResponse} (hbefore : s.stage c = .selected request stored)
    (hage : s.store.isExpired s.clock stored = false)
    (hafter : (t.stage c).request = some request) : t.stage c = .selected request stored := by
  rcases h.stage_cases c with heq | ⟨action, store, -, hmove⟩
  · exact heq.trans hbefore
  · rw [hbefore] at hmove
    generalize t.stage c = after at hmove hafter
    cases hmove with
    | expire hexpired => exact absurd (hage.symm.trans hexpired) Bool.false_ne_true
    | _ => cases hafter

/-! ## Answers while a row is live -/

variable {n : ℕ} {e : Execution (KeyedStep (C := C)) n}

/-- Whoever is within a request of the key at `j` has the live row in hand, or was within it
    at `i`. -/
theorem busy_of_live (hquiet : (e.state 0).Quiet) {i j : ℕ} (hj : j ≤ n)
    {request : KeyedRequest} {stored : StoredResponse}
    (hrow : (e.state i).store.selectRow request.key = some stored)
    (hage : (e.state j).store.isExpired (e.state j).clock stored = false)
    (hbusy : ((e.state j).stage c).request = some request) :
    (e.state j).stage c = .selected request stored ∨
      ∀ m, i ≤ m → m ≤ j → ((e.state m).stage c).request = some request := by
  rw [or_iff_not_imp_right]
  intro hnew
  push Not at hnew
  obtain ⟨m, him, hmj, hm⟩ := hnew
  obtain ⟨k, hmk, hkj, hbefore, hsince⟩ :=
    e.since (P := fun s => (s.stage c).request = some request) hmj hm hbusy
  have hselect := (e.steps k (by omega)).select_of_request hbefore (hsince (k + 1) (by omega) hkj)
  -- the row is there at the `SELECT`
  rw [selectRow_of_later hquiet (by omega : i ≤ k) (by omega) hrow
    (isExpired_of_later hkj.le hj hage)] at hselect
  apply e.preserves (P := fun s => s.stage c = .selected request stored) hkj hselect
  intro m hkm hmj hstage
  exact (e.steps m (by omega)).selected_of_request hstage (isExpired_of_later hmj.le hj hage)
    (hsince (m + 1) (by omega) hmj)

/-- The steps from `i` to `j` at which a request of `key` answers from a run of its own: it
    inserts the response of the run. -/
def InsertsOf (e : Execution (KeyedStep (C := C)) n) (key : PyStr) (i j : ℕ) : Set ℕ :=
  {m | i ≤ m ∧ m ≤ j ∧ ∃ c request stored, request.key = key ∧
    e.label m = .takes c (.insert request stored)}

theorem stage_of_insert {m : ℕ} (hm : m < n) {request : KeyedRequest} {stored : StoredResponse}
    (hinsert : e.label m = .takes c (.insert request stored)) :
    (e.state m).stage c = .storing request stored ∧ (e.state (m + 1)).stage c = .idle := by
  have hstep := e.steps m hm
  rw [hinsert] at hstep
  obtain ⟨store, hmove⟩ := hstep.move
  generalize (e.state m).stage c = before at hmove ⊢
  generalize (e.state (m + 1)).stage c = after at hmove ⊢
  cases hmove
  exact ⟨rfl, rfl⟩

/-- Whoever answers from a run while a row is live was within its request from when the row was
    there on, and is idle after. -/
theorem within_of_insertsOf (hquiet : (e.state 0).Quiet) {i j : ℕ} (hj : j < n) {key : PyStr}
    {stored : StoredResponse} (hrow : (e.state i).store.selectRow key = some stored)
    (hage : (e.state j).store.isExpired (e.state j).clock stored = false) {m : ℕ}
    (hm : m ∈ InsertsOf e key i j) :
    ∃ c request, request.key = key ∧ (e.label m).client = some c ∧
      (e.state (m + 1)).stage c = .idle ∧
      ∀ p, i ≤ p → p ≤ m → ((e.state p).stage c).request = some request := by
  obtain ⟨him, hmj, c, request, row, rfl, hinsert⟩ := hm
  obtain ⟨hstoring, hidle⟩ := stage_of_insert (by omega) hinsert
  refine ⟨c, request, rfl, congrArg Event.client hinsert, hidle, ?_⟩
  rcases busy_of_live hquiet (by omega : m ≤ n) hrow (isExpired_of_later hmj hj.le hage)
    (congrArg Stage.request hstoring) with hstage | hsince
  · cases hstoring.symm.trans hstage
  · exact hsince

theorem busy_of_insertsOf (hquiet : (e.state 0).Quiet) {i j : ℕ} (hj : j < n) {key : PyStr}
    {stored : StoredResponse} (hrow : (e.state i).store.selectRow key = some stored)
    (hage : (e.state j).store.isExpired (e.state j).clock stored = false) {m : ℕ}
    (hm : m ∈ InsertsOf e key i j) :
    ∃ c ∈ Busy (e.state i) key, (e.label m).client = some c := by
  obtain ⟨c, request, hkey, hclient, -, hwithin⟩ := within_of_insertsOf hquiet hj hrow hage hm
  exact ⟨c, ⟨request, hkey, hwithin i (le_refl i) hm.1⟩, hclient⟩

/-- There is one answer at most for each client that was busy with the key when the row was
    there. -/
theorem insertsOf_le_busy (hquiet : (e.state 0).Quiet) {i j : ℕ} (hj : j < n) {key : PyStr}
    {stored : StoredResponse} (hrow : (e.state i).store.selectRow key = some stored)
    (hage : (e.state j).store.isExpired (e.state j).clock stored = false) :
    (InsertsOf e key i j).encard ≤ (Busy (e.state i) key).encard := by
  rw [← (Option.some_injective C).encard_image]
  apply Set.encard_le_encard_of_injOn (f := fun m => (e.label m).client)
  · intro m hm
    obtain ⟨c, hc, hclient⟩ := busy_of_insertsOf hquiet hj hrow hage hm
    exact ⟨c, hc, hclient.symm⟩
  · -- after its answer a client is idle
    have hne : ∀ m ∈ InsertsOf e key i j, ∀ m' ∈ InsertsOf e key i j,
        (e.label m).client = (e.label m').client → ¬ m < m' := by
      intro m hm m' hm' hsame hlt
      obtain ⟨c, -, -, hclient, hidle, -⟩ := within_of_insertsOf hquiet hj hrow hage hm
      obtain ⟨c', request, -, hclient', -, hwithin⟩ := within_of_insertsOf hquiet hj hrow hage hm'
      rw [hclient, hclient', Option.some.injEq] at hsame
      subst hsame
      have hheld := hwithin (m + 1) (le_trans hm.1 (Nat.le_succ m)) hlt
      rw [hidle] at hheld
      cases hheld
    intro m hm m' hm' hsame
    have hle := hne m hm m' hm' hsame
    have hge := hne m' hm' m hm hsame.symm
    omega

/-! ## The gate -/

/-- The clients over the store, and those that hold a slot. -/
structure Admitted (C : Type) where
  system : System C
  borrowers : Finset C

/-- What happens at the gate, or behind it. -/
inductive GateEvent (C : Type) where
  | enter (c : C)
  | leave (c : C)
  | behind (event : Event C)

/-- What a step of the gate is to the clients over the store; at the gate no time passes. -/
def GateEvent.event : GateEvent C → Event C
  | .enter _ | .leave _ => .tick
  | .behind event => event

/-- A sweep is no request. -/
def Action.isSweep : Action → Bool
  | .readCutoff | .sweep => true
  | _ => false

section Gate

variable (process : C → P) (limit : P → ℕ)

/-- The slots taken of a process's `CapacityLimiter`. -/
def slotsOf (borrowers : Finset C) (p : P) : Finset C := borrowers.filter fun c => process c = p

/-- A client waits for a slot of its process, sends one request after the other, or leaves
    between two. -/
inductive GateStep : Admitted C → GateEvent C → Admitted C → Prop where
  | enter {s : Admitted C} {c : C} (hout : c ∉ s.borrowers)
      (hfree : (slotsOf process s.borrowers (process c)).card < limit (process c)) :
      GateStep s (.enter c) { s with borrowers := insert c s.borrowers }
  | leave {s : Admitted C} {c : C} (hrest : (s.system.stage c).request = none) :
      GateStep s (.leave c) { s with borrowers := s.borrowers.erase c }
  | behind {s : Admitted C} {event : Event C} {system : System C}
      (hslot : ∀ c action, event = .takes c action → action.isSweep = false → c ∈ s.borrowers)
      (hstep : KeyedStep s.system event system) :
      GateStep s (.behind event) { s with system := system }

/-- Nobody has more slots than there are, and who is within a request holds one. -/
structure Gated (s : Admitted C) : Prop where
  within : ∀ p, (slotsOf process s.borrowers p).card ≤ limit p
  held : ∀ c, (s.system.stage c).request ≠ none → c ∈ s.borrowers

variable {process limit} {s t : Admitted C} {l : GateEvent C}

theorem GateStep.gated (hgated : Gated process limit s) (h : GateStep process limit s l t) :
    Gated process limit t := by
  cases h with
  | @enter c hout hfree =>
    constructor
    case within =>
      intro p
      rw [slotsOf, Finset.filter_insert]
      split_ifs with hp
      · subst hp
        exact (Finset.card_insert_le _ _).trans hfree
      · exact hgated.within p
    case held => exact fun c' hc' => Finset.mem_insert_of_mem (hgated.held c' hc')
  | @leave c hrest =>
    constructor
    case within =>
      intro p
      exact (Finset.card_le_card (Finset.filter_subset_filter _ (Finset.erase_subset _ _))).trans
        (hgated.within p)
    case held =>
      intro c' hc'
      apply Finset.mem_erase.mpr
      refine ⟨?_, hgated.held c' hc'⟩
      rintro rfl
      exact hc' hrest
  | @behind event system hslot hstep =>
    refine ⟨hgated.within, ?_⟩
    intro c hc
    rcases hstep.stage_cases c with heq | ⟨action, store, rfl, hmove⟩
    · apply hgated.held
      rwa [← heq]
    · apply hslot c action rfl
      -- a sweep leaves its client outside any request
      generalize s.system.stage c = before at hmove
      generalize system.stage c = after at hmove hc
      cases hmove with
      | readCutoff | sweep => exact absurd rfl hc
      | _ => rfl

/-- What happens behind the gate happens over the store. -/
theorem GateStep.keyed (h : GateStep process limit s l t) :
    KeyedStep s.system l.event t.system := by
  cases h with
  | enter | leave => exact .tick (le_refl _)
  | behind hslot hstep => exact hstep

end Gate

/-! ## Executions -/

variable {process : C → P} {limit : P → ℕ}

/-- The clients over the store, in an execution behind the gate. -/
def behindGate (e : Execution (GateStep process limit) n) : Execution (KeyedStep (C := C)) n :=
  e.map Admitted.system GateEvent.event fun i hi => (e.steps i hi).keyed

/-- Before the first client. -/
structure AtRest (s : Admitted C) : Prop where
  quiet : s.system.Quiet
  empty : s.borrowers = ∅

theorem gated_at {e : Execution (GateStep process limit) n} (hrest : AtRest (e.state 0)) {i : ℕ}
    (hi : i ≤ n) : Gated process limit (e.state i) := by
  have hstart : Gated process limit (e.state 0) := by
    constructor
    case within => simp [slotsOf, hrest.empty]
    case held =>
      intro c hc
      rw [hrest.quiet c] at hc
      exact absurd rfl hc
  exact e.invariant hstart (fun _ _ _ hgated hstep => hstep.gated hgated) hi

omit [DecidableEq C] in
/-- There are no more clients with a slot than slots. -/
theorem Gated.card_borrowers [Fintype P] {s : Admitted C} (h : Gated process limit s) :
    s.borrowers.card ≤ ∑ p, limit p := by
  rw [Finset.card_eq_sum_card_fiberwise (f := process) (t := Finset.univ) (by simp)]
  exact Finset.sum_le_sum fun p _ => h.within p

/-- What the client of an `INSERT` holds before, it holds after. -/
theorem mem_borrowers_of_insert {s t : Admitted C} {request : KeyedRequest}
    {stored : StoredResponse}
    (h : GateStep process limit s (.behind (.takes c (.insert request stored))) t) :
    c ∈ t.borrowers := by
  cases h with
  | behind hslot hstep => exact hslot c _ rfl rfl

/-- **A key is answered from at most as many runs as there are slots** while its row is live,
    for any number of clients and processes, and any interleaving.  The row that the first
    such answer inserted is kept throughout, and every later one is of another client, which
    held its slot when the row was inserted. -/
theorem answers_within_slots [Fintype P] (e : Execution (GateStep process limit) n)
    (hrest : AtRest (e.state 0)) {k j : ℕ} (hkj : k < j) (hj : j < n) {c : C}
    {request : KeyedRequest} {stored : StoredResponse}
    (hinsert : e.label k = .behind (.takes c (.insert request stored)))
    (hfree : (e.state k).system.store.selectRow request.key = none)
    (hage : (e.state j).system.store.isExpired (e.state j).system.clock stored = false) :
    (∀ m, k < m → m ≤ j → (e.state m).system.store.selectRow request.key = some stored) ∧
    (InsertsOf (behindGate e) request.key k j).encard ≤ (∑ p, limit p : ℕ) ∧
    ∀ m ∈ InsertsOf (behindGate e) request.key (k + 1) j, ∃ c' ∈ (e.state (k + 1)).borrowers,
      c' ≠ c ∧ ((behindGate e).label m).client = some c' := by
  have hquiet : ((behindGate e).state 0).Quiet := hrest.quiet
  have hlabel : (behindGate e).label k = .takes c (.insert request stored) :=
    congrArg GateEvent.event hinsert
  -- the row is there after step `k`, and stays
  have hrow : ((behindGate e).state (k + 1)).store.selectRow request.key = some stored := by
    have hstep := (behindGate e).steps k (by omega)
    rw [hlabel] at hstep
    exact hstep.selectRow_of_insert hfree
  have hkept : ∀ m, k < m → m ≤ j →
      ((behindGate e).state m).store.selectRow request.key = some stored := by
    intro m hkm hmj
    exact selectRow_of_later hquiet hkm (by omega) hrow (isExpired_of_later hmj hj.le hage)
  -- who is busy then holds another slot
  have hgated := gated_at hrest (by omega : k + 1 ≤ n)
  have hmem : c ∈ (e.state (k + 1)).borrowers := by
    have hstep := e.steps k (by omega)
    rw [hinsert] at hstep
    exact mem_borrowers_of_insert hstep
  have hidle := (stage_of_insert (by omega) hlabel).2
  have hbusy : Busy ((behindGate e).state (k + 1)) request.key ⊆
      ↑((e.state (k + 1)).borrowers.erase c) := by
    rintro c' ⟨request', -, hc'⟩
    apply Finset.mem_coe.mpr
    apply Finset.mem_erase.mpr
    constructor
    · rintro rfl
      rw [hidle] at hc'
      cases hc'
    · apply hgated.held
      exact fun hnone => Option.some_ne_none _ (hc'.symm.trans hnone)
  refine ⟨hkept, ?_, ?_⟩
  · have hsplit : InsertsOf (behindGate e) request.key k j ⊆
        insert k (InsertsOf (behindGate e) request.key (k + 1) j) := by
      rintro m ⟨hkm, hmj, hlabel⟩
      rcases Nat.eq_or_lt_of_le hkm with rfl | hlt
      · exact Set.mem_insert _ _
      · exact Set.mem_insert_of_mem _ ⟨hlt, hmj, hlabel⟩
    calc (InsertsOf (behindGate e) request.key k j).encard
        ≤ (insert k (InsertsOf (behindGate e) request.key (k + 1) j)).encard :=
          Set.encard_le_encard hsplit
      _ ≤ (InsertsOf (behindGate e) request.key (k + 1) j).encard + 1 := Set.encard_insert_le _ _
      _ ≤ (Busy ((behindGate e).state (k + 1)) request.key).encard + 1 := by
          gcongr
          exact insertsOf_le_busy hquiet hj hrow hage
      _ ≤ (↑((e.state (k + 1)).borrowers.erase c) : Set C).encard + 1 := by
          gcongr
      _ = ((e.state (k + 1)).borrowers.card : ℕ∞) := by
          rw [Set.encard_coe_eq_coe_finsetCard, ← Finset.card_erase_add_one hmem]
          rfl
      _ ≤ (∑ p, limit p : ℕ) := by
          exact_mod_cast hgated.card_borrowers
  · rintro m hm
    obtain ⟨c', hc', hclient⟩ := busy_of_insertsOf hquiet hj hrow hage hm
    obtain ⟨hne, hmem'⟩ := Finset.mem_erase.mp (Finset.mem_coe.mp (hbusy hc'))
    exact ⟨c', hmem', hne, hclient⟩

/-! ### Two requests that overlap, behind two slots -/

def secondAnswer : StoredResponse := storedResponse (py "a") (py "second") 0

/-- The stages of the two clients, over one store. -/
def bothAt (stage stage' : Stage) (store : SqliteIdempotencyStore) : System Bool :=
  ⟨0, store, fun c => if c then stage else stage'⟩

theorem setStage_true (stage stage' stage'' : Stage) (store store' : SqliteIdempotencyStore) :
    ({ (bothAt stage stage' store).setStage true stage'' with store := store' } : System Bool) =
      bothAt stage'' stage' store' := by
  simp only [bothAt, System.setStage]
  congr
  funext c
  cases c <;> rfl

theorem setStage_false (stage stage' stage'' : Stage) (store store' : SqliteIdempotencyStore) :
    ({ (bothAt stage stage' store).setStage false stage'' with store := store' } : System Bool) =
      bothAt stage stage'' store' := by
  simp only [bothAt, System.setStage]
  congr
  funext c
  cases c <;> rfl

theorem keyedStep_true {stage stage' after : Stage} {store store' : SqliteIdempotencyStore}
    {action : Action} (h : Move 0 store stage action after store') :
    KeyedStep (bothAt stage stage' store) (.takes true action) (bothAt after stage' store') := by
  rw [← setStage_true stage stage' after store store']
  exact .takes h

theorem keyedStep_false {stage stage' after : Stage} {store store' : SqliteIdempotencyStore}
    {action : Action} (h : Move 0 store stage' action after store') :
    KeyedStep (bothAt stage stage' store) (.takes false action) (bothAt stage after store') := by
  rw [← setStage_false stage stage' after store store']
  exact .takes h

/-- The file after the first answer. -/
def answered : SqliteIdempotencyStore := emptyHourStore.put (py "k") firstAnswer

/-- Both miss, both run, and both answer from their runs. -/
def overlap : Execution (GateStep (fun _ : Bool => ()) fun _ => 2) 8 where
  state
    | 0 => ⟨bothAt .idle .idle emptyHourStore, ∅⟩
    | 1 => ⟨bothAt .idle .idle emptyHourStore, {true}⟩
    | 2 => ⟨bothAt .idle .idle emptyHourStore, {false, true}⟩
    | 3 => ⟨bothAt (.running firstRequest) .idle emptyHourStore, {false, true}⟩
    | 4 => ⟨bothAt (.running firstRequest) (.running firstRequest) emptyHourStore, {false, true}⟩
    | 5 => ⟨bothAt (.storing firstRequest firstAnswer) (.running firstRequest) emptyHourStore,
        {false, true}⟩
    | 6 => ⟨bothAt (.storing firstRequest firstAnswer) (.storing firstRequest secondAnswer)
        emptyHourStore, {false, true}⟩
    | 7 => ⟨bothAt .idle (.storing firstRequest secondAnswer) answered, {false, true}⟩
    | _ => ⟨bothAt .idle .idle (answered.put (py "k") secondAnswer), {false, true}⟩
  label
    | 0 => .enter true
    | 1 => .enter false
    | 2 => .behind (.takes true (.select firstRequest))
    | 3 => .behind (.takes false (.select firstRequest))
    | 4 => .behind (.takes true (.respond firstRequest firstAnswer))
    | 5 => .behind (.takes false (.respond firstRequest secondAnswer))
    | 6 => .behind (.takes true (.insert firstRequest firstAnswer))
    | _ => .behind (.takes false (.insert firstRequest secondAnswer))
  steps i hi := by
    have hboth : ∀ (c : Bool) (event : Event Bool) (action : Action),
        event = .takes c action → action.isSweep = false → c ∈ ({false, true} : Finset Bool) := by
      intro c _ _ _ _
      cases c <;> decide
    interval_cases i
    · exact .enter (by decide) (by decide)
    · exact .enter (by decide) (by decide)
    · exact .behind (fun c action => hboth c _ action) (keyedStep_true (.select firstRequest))
    · exact .behind (fun c action => hboth c _ action) (keyedStep_false (.select firstRequest))
    · exact .behind (fun c action => hboth c _ action) (keyedStep_true (.respond (py "first")))
    · exact .behind (fun c action => hboth c _ action) (keyedStep_false (.respond (py "second")))
    · exact .behind (fun c action => hboth c _ action) (keyedStep_true .insert)
    · exact .behind (fun c action => hboth c _ action) (keyedStep_false .insert)

/-- The bound is reached. -/
theorem answers_within_slots_overlap :
    (InsertsOf (behindGate overlap) (py "k") 6 7).encard ≤ (2 : ℕ) ∧
      6 ∈ InsertsOf (behindGate overlap) (py "k") 6 7 ∧
      7 ∈ InsertsOf (behindGate overlap) (py "k") 6 7 := by
  have hslots := (answers_within_slots overlap ⟨by intro c; cases c <;> rfl, rfl⟩
    (by decide : 6 < 7) (by decide) rfl (by decide +kernel) (by decide +kernel)).2.1
  exact ⟨hslots, ⟨le_refl 6, by decide, true, firstRequest, firstAnswer, rfl, rfl⟩,
    ⟨by decide, le_refl 7, false, firstRequest, secondAnswer, rfl, rfl⟩⟩

end ExtractApi.KeyedClients
