import ExtractApi.SequentialReplay
import ExtractApi.StoreInterleaving

/-!
# Keyed requests that overlap

`_run_extract_idempotent` in any number of threads and processes over one store file, one
SQL statement or clock read at a time.  Between its statements a request keeps what it has
read; between a miss and its `INSERT` it runs the extraction, which may take any time, fail,
or die with its process.

Requests of one key that overlap may each miss and each run; what holds across every
interleaving is said about the row of the key.  A row is traced to the run that made it
(`storedRow_traced`), and while a row is unexpired a request that selects can only wait
with it in hand (`selected_of_live`), so a run under way belongs to a request that was in
flight before the row was there.

The statements are those of `StoreInterleaving`, between which a request may also be
abandoned; `runExtractIdempotent_steps` says that a request nobody interleaves with is the
flow of `ExtractFlow`.
-/

namespace ExtractApi.KeyedClients

open ExpiringMap PythonText TransitionSystem RaisingProgram

variable {C : Type} [DecidableEq C] {M : Type}

/-! ## The system -/

/-- A request as the store sees it: its key and the hash of its payload. -/
structure KeyedRequest where
  key : PyStr
  payloadSha256 : PyStr
deriving DecidableEq

/-- Where a client is within its request, or within a sweep. -/
inductive Stage where
  | idle
  /-- the `SELECT` returned this row, whose age is yet to be judged -/
  | selected (request : KeyedRequest) (stored : StoredResponse)
  | deleting (request : KeyedRequest) (createdAtEpoch : ℚ)
  /-- a miss: `_run_extract` is under way -/
  | running (request : KeyedRequest)
  /-- the response is there, with its time, and yet to be inserted -/
  | storing (request : KeyedRequest) (stored : StoredResponse)
  | sweeping (cutoff : ℚ)

/-- What the stage is to the store alone. -/
def Stage.pending : Stage → Pending
  | .idle | .running _ | .storing _ _ => .idle
  | .selected request stored => .selected request.key stored
  | .deleting request created => .deleting request.key created
  | .sweeping cutoff => .sweeping cutoff

/-- The request that has no response yet. -/
def Stage.awaits : Stage → Option KeyedRequest
  | .selected request _ | .deleting request _ | .running request => some request
  | .idle | .storing _ _ | .sweeping _ => none

structure System (C : Type) where
  clock : ℚ
  store : SqliteIdempotencyStore
  stage : C → Stage

def System.setStage (s : System C) (c : C) (stage : Stage) : System C :=
  { s with stage := Function.update s.stage c stage }

/-- The store and what its clients have read of it. -/
def System.shared (s : System C) : SharedStore C := ⟨s.clock, s.store, fun c => (s.stage c).pending⟩

/-- One statement of a request or of a sweep, one clock read, or one end of a run. -/
inductive Action where
  | select (request : KeyedRequest)
  | replay (request : KeyedRequest) (stored : StoredResponse)
  | conflict (request : KeyedRequest) (stored : StoredResponse)
  | expire
  | delete
  | respond (request : KeyedRequest) (stored : StoredResponse)
  | insert (request : KeyedRequest) (stored : StoredResponse)
  | abandon
  | readCutoff
  | sweep

inductive Event (C : Type) where
  | tick
  | takes (c : C) (action : Action)

def Event.client : Event C → Option C
  | .tick => none
  | .takes c _ => some c

/-- What a request does with the row of its `SELECT`. -/
def afterSelect (request : KeyedRequest) : Option StoredResponse → Stage
  | none => .running request
  | some stored => .selected request stored

section Move

variable (clock : ℚ) (store : SqliteIdempotencyStore)

/-- An action of a client at one stage: the stage and the store it leads to. -/
inductive Move : Stage → Action → Stage → SqliteIdempotencyStore → Prop where
  | select (request : KeyedRequest) :
      Move .idle (.select request) (afterSelect request (store.selectRow request.key)) store
  | replay {request : KeyedRequest} {stored : StoredResponse}
      (hage : store.isExpired clock stored = false)
      (hhash : stored.payloadSha256 = request.payloadSha256) :
      Move (.selected request stored) (.replay request stored) .idle store
  | conflict {request : KeyedRequest} {stored : StoredResponse}
      (hage : store.isExpired clock stored = false)
      (hhash : stored.payloadSha256 ≠ request.payloadSha256) :
      Move (.selected request stored) (.conflict request stored) .idle store
  | expire {request : KeyedRequest} {stored : StoredResponse}
      (hage : store.isExpired clock stored = true) :
      Move (.selected request stored) .expire (.deleting request stored.createdAtEpoch) store
  | delete {request : KeyedRequest} {created : ℚ} :
      Move (.deleting request created) .delete (.running request)
        (store.deleteExpired request.key created)
  /-- The run returned, its response was dumped and `time.time()` read. -/
  | respond {request : KeyedRequest} (responseJson : PyStr) :
      Move (.running request)
        (.respond request (storedResponse request.payloadSha256 responseJson clock))
        (.storing request (storedResponse request.payloadSha256 responseJson clock)) store
  | insert {request : KeyedRequest} {stored : StoredResponse} :
      Move (.storing request stored) (.insert request stored) .idle (store.put request.key stored)
  /-- An exception of the run or of a statement, or the end of the process. -/
  | abandon {stage : Stage} : Move stage .abandon .idle store
  | readCutoff : Move .idle .readCutoff (.sweeping (store.cutoff clock)) store
  | sweep {cutoff : ℚ} : Move (.sweeping cutoff) .sweep .idle (store.deleteBefore cutoff)

end Move

inductive KeyedStep : System C → Event C → System C → Prop where
  | tick {s : System C} {now : ℚ} (hnow : s.clock ≤ now) : KeyedStep s .tick { s with clock := now }
  | takes {s : System C} {c : C} {action : Action} {stage : Stage} {store : SqliteIdempotencyStore}
      (hmove : Move s.clock s.store (s.stage c) action stage store) :
      KeyedStep s (.takes c action) { s.setStage c stage with store := store }

variable {s t : System C} {l : Event C} {c : C} {action : Action}

@[simp] theorem setStage_stage_self (s : System C) (c : C) (stage : Stage) :
    (s.setStage c stage).stage c = stage := Function.update_self ..

theorem setStage_stage_of_ne (s : System C) {c c' : C} (h : c' ≠ c) (stage : Stage) :
    (s.setStage c stage).stage c' = s.stage c' := Function.update_of_ne h ..

@[simp] theorem awaits_afterSelect (request : KeyedRequest) (row : Option StoredResponse) :
    (afterSelect request row).awaits = some request := by
  cases row <;> rfl

/-- A client moves on, over a store: the same to `StoreInterleaving`. -/
theorem shared_moved (s : System C) (c : C) (stage : Stage) (store : SqliteIdempotencyStore) :
    ({ s.setStage c stage with store := store } : System C).shared =
      { s.shared.setPending c stage.pending with store := store } := by
  have hpending : (fun c' => (Function.update s.stage c stage c').pending) =
      Function.update (fun c' => (s.stage c').pending) c stage.pending := by
    funext c'
    by_cases hc : c' = c
    · subst hc
      simp
    · simp [Function.update_of_ne hc]
  exact congrArg (SharedStore.mk s.clock store) hpending

/-- **A step is a statement of `StoreInterleaving`, or one client's operation is dropped.** -/
theorem KeyedStep.shared (h : KeyedStep s l t) :
    (∃ l', StoreStep s.shared l' t.shared) ∨ ∃ c, t.shared = s.shared.setPending c .idle := by
  cases h with
  | tick hnow => exact .inl ⟨.tick, .tick hnow⟩
  | @takes c action stage store hmove =>
    have hpending : s.shared.pending c = (s.stage c).pending := rfl
    rw [shared_moved]
    generalize s.stage c = before at hmove hpending
    cases hmove with
    | select request =>
      have hpend : (afterSelect request (s.store.selectRow request.key)).pending =
          selectedOf request.key (s.store.selectRow request.key) := by
        cases s.store.selectRow request.key <;> rfl
      rw [hpend]
      exact .inl ⟨_, .select hpending⟩
    | expire hage => exact .inl ⟨_, .expire hpending hage⟩
    | delete => exact .inl ⟨_, .delete hpending⟩
    | insert =>
      have hsame : s.shared.setPending c .idle = s.shared := by
        have hidle : s.shared.pending c = .idle := hpending
        rw [SharedStore.setPending, ← hidle, Function.update_eq_self]
      rw [Stage.pending, hsame]
      exact .inl ⟨_, .insert hpending⟩
    | readCutoff => exact .inl ⟨_, .readCutoff hpending⟩
    | sweep => exact .inl ⟨_, .sweep hpending⟩
    | replay | conflict | respond | abandon => exact .inr ⟨c, rfl⟩

/-! ## What every step respects -/

theorem KeyedStep.clock_le (h : KeyedStep s l t) : s.clock ≤ t.clock := by
  rcases h.shared with ⟨l', hstep⟩ | ⟨c, heq⟩
  · exact hstep.clock_le
  · exact (congrArg SharedStore.clock heq).ge

theorem KeyedStep.ttlSeconds_eq (h : KeyedStep s l t) :
    t.store.ttlSeconds = s.store.ttlSeconds := by
  rcases h.shared with ⟨l', hstep⟩ | ⟨c, heq⟩
  · exact hstep.ttlSeconds_eq
  · exact congrArg (fun shared => shared.store.ttlSeconds) heq

theorem KeyedStep.safeDeletes (hsafe : SafeDeletes s.shared) (h : KeyedStep s l t) :
    SafeDeletes t.shared := by
  rcases h.shared with ⟨l', hstep⟩ | ⟨c, heq⟩
  · exact hstep.safeDeletes hsafe
  · rw [heq]
    exact hsafe.setPending trivial

/-- No step, and no crash between two statements, removes or changes an unexpired row. -/
theorem KeyedStep.selectRow_of_unexpired (hsafe : SafeDeletes s.shared) (h : KeyedStep s l t)
    {key : PyStr} {stored : StoredResponse} (hrow : s.store.selectRow key = some stored)
    (hage : s.store.isExpired s.clock stored = false) :
    t.store.selectRow key = some stored := by
  rcases h.shared with ⟨l', hstep⟩ | ⟨c, heq⟩
  · exact hstep.selectRow_of_unexpired hsafe hrow hage
  · exact (congrArg (fun shared : SharedStore C => shared.store.selectRow key) heq).trans hrow

/-- What a step does to a row: only an `INSERT` makes one, where there was none. -/
theorem KeyedStep.row_of_new (h : KeyedStep s l t) {key : PyStr} {stored : StoredResponse}
    (hbefore : s.store.selectRow key ≠ some stored) (hrow : t.store.selectRow key = some stored) :
    ∃ c request, l = .takes c (.insert request stored) ∧ request.key = key ∧
      s.stage c = .storing request stored ∧ s.store.selectRow key = none := by
  cases h with
  | tick => exact absurd hrow hbefore
  | @takes c action stage store hmove =>
    have hrow : store.selectRow key = some stored := hrow
    generalize hstage : s.stage c = before at hmove
    cases hmove with
    | @insert request stored' =>
      rw [SqliteIdempotencyStore.selectRow_put] at hrow
      rcases hselect : s.store.selectRow key with _ | old
      · rw [hselect, Option.none_or] at hrow
        split_ifs at hrow with hkey
        cases hrow
        exact ⟨c, request, rfl, hkey, hstage, rfl⟩
      · rw [hselect] at hrow
        exact absurd (hselect.trans hrow) hbefore
    | delete =>
      rw [SqliteIdempotencyStore.selectRow_deleteExpired] at hrow
      exact absurd (Option.filter_eq_some_iff.mp hrow).1 hbefore
    | sweep =>
      rw [SqliteIdempotencyStore.selectRow_deleteBefore] at hrow
      exact absurd (Option.filter_eq_some_iff.mp hrow).1 hbefore
    | _ => exact absurd hrow hbefore

/-- An `INSERT` where no row was makes one. -/
theorem KeyedStep.selectRow_of_insert {request : KeyedRequest} {stored : StoredResponse}
    (h : KeyedStep s (.takes c (.insert request stored)) t)
    (hfree : s.store.selectRow request.key = none) :
    t.store.selectRow request.key = some stored := by
  cases h with
  | @takes _ _ stage store hmove =>
    show store.selectRow request.key = some stored
    generalize s.stage c = before at hmove
    cases hmove
    rw [SqliteIdempotencyStore.selectRow_put, hfree, Option.none_or, if_pos rfl]

/-! ## One client's stage -/

/-- A client's stage changes by an action of its own. -/
theorem KeyedStep.stage_cases (h : KeyedStep s l t) (c : C) :
    t.stage c = s.stage c ∨ ∃ action store, l = .takes c action ∧
      Move s.clock s.store (s.stage c) action (t.stage c) store := by
  cases h with
  | tick => exact .inl rfl
  | @takes c' action stage store hmove =>
    by_cases hc : c = c'
    · subst hc
      refine .inr ⟨action, store, rfl, ?_⟩
      rw [show (({ s.setStage c stage with store := store } : System C).stage c) = stage
        from setStage_stage_self s c stage]
      exact hmove
    · exact .inl (setStage_stage_of_ne s hc stage)

/-- Only a `SELECT` makes a client wait for a response. -/
theorem KeyedStep.select_of_awaits (h : KeyedStep s l t) {c : C} {request : KeyedRequest}
    (hbefore : (s.stage c).awaits ≠ some request) (hafter : (t.stage c).awaits = some request) :
    l = .takes c (.select request) ∧
      t.stage c = afterSelect request (s.store.selectRow request.key) := by
  rcases h.stage_cases c with heq | ⟨action, store, rfl, hmove⟩
  · rw [heq] at hafter
    exact absurd hafter hbefore
  · generalize s.stage c = before at hmove hbefore
    generalize t.stage c = after at hmove hafter
    cases hmove with
    | select request' =>
      rw [awaits_afterSelect] at hafter
      cases hafter
      exact ⟨rfl, rfl⟩
    | expire | delete => exact absurd hafter hbefore
    | _ => cases hafter

/-- Only the end of a run leaves a client with a row to insert. -/
theorem KeyedStep.respond_of_storing (h : KeyedStep s l t) {c : C} {request : KeyedRequest}
    {stored : StoredResponse} (hbefore : s.stage c ≠ .storing request stored)
    (hafter : t.stage c = .storing request stored) :
    l = .takes c (.respond request stored) ∧ s.stage c = .running request ∧
      stored.payloadSha256 = request.payloadSha256 ∧ stored.createdAtEpoch = s.clock := by
  rcases h.stage_cases c with heq | ⟨action, store, rfl, hmove⟩
  · rw [heq] at hafter
    exact absurd hafter hbefore
  · generalize s.stage c = before at hmove
    generalize t.stage c = after at hmove hafter
    cases hmove with
    | select request' =>
      have hawaits := congrArg Stage.awaits hafter
      rw [awaits_afterSelect] at hawaits
      cases hawaits
    | respond responseJson =>
      cases hafter
      exact ⟨rfl, rfl, rfl, rfl⟩
    | _ => cases hafter

/-- A client that waits with an unexpired row in hand keeps it. -/
theorem KeyedStep.selected_of_unexpired (h : KeyedStep s l t) {c : C} {request : KeyedRequest}
    {stored : StoredResponse} (hbefore : s.stage c = .selected request stored)
    (hage : s.store.isExpired s.clock stored = false)
    (hafter : (t.stage c).awaits = some request) : t.stage c = .selected request stored := by
  rcases h.stage_cases c with heq | ⟨action, store, rfl, hmove⟩
  · exact heq.trans hbefore
  · rw [hbefore] at hmove
    generalize t.stage c = after at hmove hafter
    cases hmove with
    | expire hexpired => exact absurd (hage.symm.trans hexpired) Bool.false_ne_true
    | _ => cases hafter

/-- Only a `SELECT` gives a client a row. -/
theorem KeyedStep.select_of_selected (h : KeyedStep s l t) {c : C} {request : KeyedRequest}
    {stored : StoredResponse} (hbefore : s.stage c ≠ .selected request stored)
    (hafter : t.stage c = .selected request stored) :
    l = .takes c (.select request) ∧ s.store.selectRow request.key = some stored := by
  rcases h.stage_cases c with heq | ⟨action, store, rfl, hmove⟩
  · rw [heq] at hafter
    exact absurd hafter hbefore
  · generalize s.stage c = before at hmove
    generalize t.stage c = after at hmove hafter
    cases hmove with
    | select request' =>
      cases hrow : s.store.selectRow request'.key with
      | none => rw [hrow] at hafter; cases hafter
      | some row => rw [hrow] at hafter; cases hafter; exact ⟨rfl, hrow⟩
    | _ => cases hafter

/-- Who takes an action is at the stage it starts from. -/
theorem KeyedStep.move (h : KeyedStep s (.takes c action) t) :
    ∃ store, Move s.clock s.store (s.stage c) action (t.stage c) store := by
  cases h with
  | @takes _ _ stage store hmove =>
    refine ⟨store, ?_⟩
    rw [show (({ s.setStage c stage with store := store } : System C).stage c) = stage
      from setStage_stage_self s c stage]
    exact hmove

/-! ## Executions -/

/-- No request and no sweep is under way. -/
def System.Quiet (s : System C) : Prop := ∀ c, s.stage c = .idle

variable {n : ℕ} {e : Execution (KeyedStep (C := C)) n}

theorem safeDeletes_at (hquiet : (e.state 0).Quiet) {i : ℕ} (hi : i ≤ n) :
    SafeDeletes (e.state i).shared := by
  have hstart : SafeDeletes (e.state 0).shared := by
    intro c
    show Pending.SafeDelete _ _ ((e.state 0).stage c).pending
    rw [hquiet c]
    trivial
  have hstep : ∀ s l t, SafeDeletes s.shared → KeyedStep (C := C) s l t → SafeDeletes t.shared :=
    fun _ _ _ hsafe hstep => hstep.safeDeletes hsafe
  exact e.invariant hstart hstep hi

/-- A row within its time to live was within it before. -/
theorem isExpired_of_later {i j : ℕ} (hij : i ≤ j) (hj : j ≤ n) {stored : StoredResponse}
    (h : (e.state j).store.isExpired (e.state j).clock stored = false) :
    (e.state i).store.isExpired (e.state i).clock stored = false := by
  have hclock : (e.state i).clock ≤ (e.state j).clock :=
    e.relates (R := fun s t => s.clock ≤ t.clock) (fun _ => le_refl _)
      (fun _ _ _ => le_trans) (fun _ _ _ => KeyedStep.clock_le) hij hj
  have httl : (e.state j).store.ttlSeconds = (e.state i).store.ttlSeconds :=
    e.relates (R := fun s t => t.store.ttlSeconds = s.store.ttlSeconds) (fun _ => rfl)
      (fun _ _ _ h h' => h'.trans h) (fun _ _ _ => KeyedStep.ttlSeconds_eq) hij hj
  rw [SqliteIdempotencyStore.isExpired_eq_false_iff] at h ⊢
  rw [httl] at h
  linarith

/-- A row that is unexpired at a later moment is still there then. -/
theorem selectRow_of_later (hquiet : (e.state 0).Quiet) {i j : ℕ} (hij : i ≤ j) (hj : j ≤ n)
    {key : PyStr} {stored : StoredResponse}
    (hrow : (e.state i).store.selectRow key = some stored)
    (hage : (e.state j).store.isExpired (e.state j).clock stored = false) :
    (e.state j).store.selectRow key = some stored :=
  e.preserves (P := fun s => s.store.selectRow key = some stored) hij hrow
    fun m _ hmj hm => (e.steps m (by omega)).selectRow_of_unexpired
      (safeDeletes_at hquiet (by omega)) hm (isExpired_of_later (by omega : m ≤ j) hj hage)

/-! ### Where a row comes from -/

/-- `c` selects for `request` at step `i`, has its response at step `r` and inserts it as
    `stored` at step `k`, in one go. -/
structure Makes (e : Execution (KeyedStep (C := C)) n) (c : C) (request : KeyedRequest)
    (stored : StoredResponse) (i r k : ℕ) : Prop where
  ordered : i < r ∧ r < k ∧ k < n
  select : e.label i = .takes c (.select request)
  waits : ∀ m, i < m → m ≤ r → ((e.state m).stage c).awaits = some request
  respond : e.label r = .takes c (.respond request stored)
  insert : e.label k = .takes c (.insert request stored)
  /-- the row is the first writer's -/
  free : (e.state k).store.selectRow request.key = none
  hash : stored.payloadSha256 = request.payloadSha256
  created : stored.createdAtEpoch = (e.state r).clock

/-- A client that waits for a response selected for it, and has waited since. -/
theorem select_of_awaits (hquiet : (e.state 0).Quiet) {j : ℕ} (hj : j ≤ n) {c : C}
    {request : KeyedRequest} (hawaits : ((e.state j).stage c).awaits = some request) :
    ∃ i < j, e.label i = .takes c (.select request) ∧
      (e.state (i + 1)).stage c = afterSelect request ((e.state i).store.selectRow request.key) ∧
      ∀ m, i < m → m ≤ j → ((e.state m).stage c).awaits = some request := by
  have hstart : ¬ ((e.state 0).stage c).awaits = some request := by
    rw [hquiet c]
    exact Option.some_ne_none request ∘ Eq.symm
  obtain ⟨i, -, hij, hbefore, hsince⟩ :=
    e.since (P := fun s => (s.stage c).awaits = some request) (Nat.zero_le j) hstart hawaits
  have hselect := (e.steps i (by omega)).select_of_awaits hbefore (hsince (i + 1) (by omega) hij)
  exact ⟨i, hij, hselect.1, hselect.2, hsince⟩

/-- **A row is in the file from the start, or one request ran and inserted it.** -/
theorem storedRow_traced (hquiet : (e.state 0).Quiet) {j : ℕ} (hj : j ≤ n) {key : PyStr}
    {stored : StoredResponse} (hrow : (e.state j).store.selectRow key = some stored) :
    (e.state 0).store.selectRow key = some stored ∨
      ∃ c request i r k, k < j ∧ request.key = key ∧ Makes e c request stored i r k := by
  by_cases hstart : (e.state 0).store.selectRow key = some stored
  · exact .inl hstart
  -- the `INSERT` is the last change of the row, the response the last change before it
  obtain ⟨k, -, hkj, hbefore, hsince⟩ :=
    e.since (P := fun s => s.store.selectRow key = some stored) (Nat.zero_le j) hstart hrow
  obtain ⟨c, request, hinsert, rfl, hstoring, hfree⟩ :=
    (e.steps k (by omega)).row_of_new hbefore (hsince (k + 1) (by omega) hkj)
  have hidle : ¬ (e.state 0).stage c = .storing request stored := by
    rw [hquiet c]
    exact Stage.noConfusion
  obtain ⟨r, -, hrk, hrunning, hstored⟩ :=
    e.since (P := fun s => s.stage c = .storing request stored) (Nat.zero_le k) hidle hstoring
  obtain ⟨hrespond, hrun, hhash, hcreated⟩ :=
    (e.steps r (by omega)).respond_of_storing hrunning (hstored (r + 1) (by omega) hrk)
  obtain ⟨i, hir, hselect, -, hwaits⟩ :=
    select_of_awaits hquiet (by omega : r ≤ n) (congrArg Stage.awaits hrun)
  exact .inr ⟨c, request, i, r, k, hkj, rfl, ⟨hir, hrk, by omega⟩, hselect, hwaits, hrespond,
    hinsert, hfree, hhash, hcreated⟩

/-- The request of `c` that is answered from `stored` at step `j` selected it, after `stored`
    was there from the start or was made by one request of the key; `same` says whether that
    was a request with the same payload. -/
def TracedTo (e : Execution (KeyedStep (C := C)) n) (c : C) (request : KeyedRequest)
    (stored : StoredResponse) (j : ℕ) (same : Prop) : Prop :=
  ∃ i < j, e.label i = .takes c (.select request) ∧
    (∀ m, i < m → m ≤ j → (e.state m).stage c = .selected request stored) ∧
    ((e.state 0).store.selectRow request.key = some stored ∨
      ∃ maker origin i' r k, k < i ∧ origin.key = request.key ∧
        (origin.payloadSha256 = request.payloadSha256 ↔ same) ∧
        Makes e maker origin stored i' r k)

theorem tracedTo_of_selected (hquiet : (e.state 0).Quiet) {j : ℕ} (hj : j ≤ n) {c : C}
    {request : KeyedRequest} {stored : StoredResponse}
    (hselected : (e.state j).stage c = .selected request stored) :
    TracedTo e c request stored j (stored.payloadSha256 = request.payloadSha256) := by
  have hidle : ¬ (e.state 0).stage c = .selected request stored := by
    rw [hquiet c]
    exact Stage.noConfusion
  obtain ⟨i, -, hij, hbefore, hsince⟩ :=
    e.since (P := fun s => s.stage c = .selected request stored) (Nat.zero_le j) hidle hselected
  obtain ⟨hselect, hrow⟩ :=
    (e.steps i (by omega)).select_of_selected hbefore (hsince (i + 1) (by omega) hij)
  refine ⟨i, hij, hselect, hsince, ?_⟩
  rcases storedRow_traced hquiet (by omega) hrow with hstart | ⟨maker, origin, i', r, k, hki,
    hkey, hmakes⟩
  · exact .inl hstart
  · refine .inr ⟨maker, origin, i', r, k, hki, hkey, ?_, hmakes⟩
    rw [hmakes.hash]

/-- **Every replay is of a run of the same request, every conflict is with a run of another**,
    for any number of clients and any interleaving: the row that a request is answered from
    was inserted before its `SELECT` by a request of its key, which ran; it has the same
    payload hash when the answer is a replay and a different one when it is a conflict.
    The only other rows are those of the file at the start. -/
theorem answers_traced (e : Execution (KeyedStep (C := C)) n) (hquiet : (e.state 0).Quiet)
    {j : ℕ} (hj : j < n) (c : C) (request : KeyedRequest) (stored : StoredResponse) :
    (e.label j = .takes c (.replay request stored) →
      stored.payloadSha256 = request.payloadSha256 ∧ TracedTo e c request stored j True) ∧
    (e.label j = .takes c (.conflict request stored) →
      stored.payloadSha256 ≠ request.payloadSha256 ∧ TracedTo e c request stored j False) := by
  have hmove : ∀ {action}, e.label j = .takes c action → ∃ after store,
      Move (e.state j).clock (e.state j).store ((e.state j).stage c) action after store := by
    intro action hlabel
    have hstep := e.steps j hj
    rw [hlabel] at hstep
    exact ⟨_, hstep.move⟩
  constructor
  · intro hlabel
    obtain ⟨after, store, hmove⟩ := hmove hlabel
    generalize hstage : (e.state j).stage c = before at hmove
    cases hmove with
    | replay hage hhash =>
      have htraced := tracedTo_of_selected hquiet hj.le hstage
      rw [eq_true hhash] at htraced
      exact ⟨hhash, htraced⟩
  · intro hlabel
    obtain ⟨after, store, hmove⟩ := hmove hlabel
    generalize hstage : (e.state j).stage c = before at hmove
    cases hmove with
    | conflict hage hhash =>
      have htraced := tracedTo_of_selected hquiet hj.le hstage
      rw [eq_false hhash] at htraced
      exact ⟨hhash, htraced⟩

/-! ### While a row is live -/

/-- A request of the key that waits at `j` has the live row in hand, or was waiting at `i`. -/
theorem selected_of_live (hquiet : (e.state 0).Quiet) {i j : ℕ} (hj : j ≤ n)
    {request : KeyedRequest} {stored : StoredResponse}
    (hrow : (e.state i).store.selectRow request.key = some stored)
    (hage : (e.state j).store.isExpired (e.state j).clock stored = false) {c : C}
    (hawaits : ((e.state j).stage c).awaits = some request) :
    (e.state j).stage c = .selected request stored ∨
      ∀ m, i ≤ m → m ≤ j → ((e.state m).stage c).awaits = some request := by
  rw [or_iff_not_imp_right]
  intro hnew
  push Not at hnew
  obtain ⟨m, him, hmj, hm⟩ := hnew
  obtain ⟨k, hmk, hkj, hbefore, hsince⟩ :=
    e.since (P := fun s => (s.stage c).awaits = some request) hmj hm hawaits
  have hselect := (e.steps k (by omega)).select_of_awaits hbefore (hsince (k + 1) (by omega) hkj)
  have hrow_at := selectRow_of_later hquiet (by omega : i ≤ k) (by omega) hrow
    (isExpired_of_later hkj.le hj hage)
  rw [hrow_at] at hselect
  exact e.preserves (P := fun s => s.stage c = .selected request stored) hkj hselect.2
    fun m hkm hmj hstage => (e.steps m (by omega)).selected_of_unexpired hstage
      (isExpired_of_later hmj.le hj hage) (hsince (m + 1) (by omega) hmj)

/-- A response is of a client that is running then and no longer waits after. -/
theorem stage_of_respond {m : ℕ} (hm : m < n) {c : C} {request : KeyedRequest}
    {row : StoredResponse} (hrespond : e.label m = .takes c (.respond request row)) :
    (e.state m).stage c = .running request ∧ ((e.state (m + 1)).stage c).awaits = none := by
  have hstep := e.steps m hm
  rw [hrespond] at hstep
  obtain ⟨store, hmove⟩ := hstep.move
  generalize (e.state m).stage c = before at hmove ⊢
  generalize (e.state (m + 1)).stage c = after at hmove ⊢
  cases hmove
  exact ⟨rfl, rfl⟩

/-- The clients that wait for a response of `key`. -/
def InFlight (s : System C) (key : PyStr) : Set C :=
  {c | ∃ request, request.key = key ∧ (s.stage c).awaits = some request}

/-- The steps from `i` to `j` at which a run for `key` ends with a response. -/
def RunsEnding (e : Execution (KeyedStep (C := C)) n) (key : PyStr) (i j : ℕ) : Set ℕ :=
  {m | i ≤ m ∧ m ≤ j ∧ ∃ c request row, request.key = key ∧
    e.label m = .takes c (.respond request row)}

/-- The runs that end while a row is live are of clients that were in flight when it was
    first seen, one for each. -/
theorem runsEnding_le_inFlight (hquiet : (e.state 0).Quiet) {i j : ℕ} (hj : j < n) {key : PyStr}
    {stored : StoredResponse} (hrow : (e.state i).store.selectRow key = some stored)
    (hage : (e.state j).store.isExpired (e.state j).clock stored = false) :
    (RunsEnding e key i j).encard ≤ (InFlight (e.state i) key).encard := by
  have hwaited : ∀ m ∈ RunsEnding e key i j, ∃ c request row, request.key = key ∧
      e.label m = .takes c (.respond request row) ∧
      ∀ p, i ≤ p → p ≤ m → ((e.state p).stage c).awaits = some request := by
    rintro m ⟨him, hmj, c, request, row, rfl, hrespond⟩
    have hrunning := (stage_of_respond (by omega) hrespond).1
    rcases selected_of_live hquiet (by omega : m ≤ n) hrow
      (isExpired_of_later hmj hj.le hage) (congrArg Stage.awaits hrunning) with hstage | hwaits
    · cases hrunning.symm.trans hstage
    · exact ⟨c, request, row, rfl, hrespond, hwaits⟩
  rw [← (Option.some_injective C).encard_image]
  refine Set.encard_le_encard_of_injOn (f := fun m => (e.label m).client) ?_ ?_
  · intro m hm
    obtain ⟨c, request, row, hkey, hrespond, hwaits⟩ := hwaited m hm
    exact ⟨c, ⟨request, hkey, hwaits i (le_refl i) hm.1⟩, (congrArg Event.client hrespond).symm⟩
  · -- after its first response a client no longer waits
    have hne : ∀ m ∈ RunsEnding e key i j, ∀ m' ∈ RunsEnding e key i j,
        (e.label m).client = (e.label m').client → ¬ m < m' := by
      intro m hm m' hm' hsame hlt
      obtain ⟨c, request, row, -, hrespond, -⟩ := hwaited m hm
      obtain ⟨c', request', row', -, hrespond', hwaits'⟩ := hwaited m' hm'
      rw [hrespond, hrespond'] at hsame
      cases hsame
      have hle := hm'.2.1
      have hdone := (stage_of_respond (by omega) hrespond).2
      have hwaiting := hwaits' (m + 1) (le_trans hm.1 (Nat.le_succ m)) hlt
      cases hdone.symm.trans hwaiting
    intro m hm m' hm' hsame
    have hle := hne m hm m' hm' hsame
    have hge := hne m' hm' m hm hsame.symm
    omega

/-- What a request that finds the live row does next. -/
def AnswersFrom (request : KeyedRequest) (stored : StoredResponse) (action : Action) : Prop :=
  action = .abandon ∨
    action = if stored.payloadSha256 = request.payloadSha256 then .replay request stored
      else .conflict request stored

/-- **While a row is live no new run starts under its key**, for any number of clients and
    any interleaving.  Let `stored` be the row of the key at step `i`, unexpired at step `j`.
    A request of the key that selects in between is answered from `stored` or abandoned, and
    the runs that end in between are at most as many as the requests in flight at `i`. -/
theorem live_row_ends_runs (e : Execution (KeyedStep (C := C)) n) (hquiet : (e.state 0).Quiet)
    {i j : ℕ} (hj : j < n) {key : PyStr} {stored : StoredResponse}
    (hrow : (e.state i).store.selectRow key = some stored)
    (hage : (e.state j).store.isExpired (e.state j).clock stored = false) :
    (∀ m m' c request action, i ≤ m → m < m' → m' ≤ j → request.key = key →
      e.label m = .takes c (.select request) →
      (∀ p, m < p → p < m' → ∀ a, e.label p ≠ .takes c a) → e.label m' = .takes c action →
      AnswersFrom request stored action) ∧
    (RunsEnding e key i j).encard ≤ (InFlight (e.state i) key).encard := by
  refine ⟨?_, runsEnding_le_inFlight hquiet hj hrow hage⟩
  rintro m m' c request action him hmm' hm'j rfl hselect halone haction
  have hrow_at := selectRow_of_later hquiet him (by omega) hrow
    (isExpired_of_later (by omega : m ≤ j) hj.le hage)
  have hselected : (e.state (m + 1)).stage c = .selected request stored := by
    have hstep := e.steps m (by omega)
    rw [hselect] at hstep
    obtain ⟨store, hmove⟩ := hstep.move
    generalize (e.state m).stage c = before at hmove
    generalize (e.state (m + 1)).stage c = after at hmove ⊢
    cases hmove
    rw [hrow_at]
    rfl
  have hkept : (e.state m').stage c = .selected request stored :=
    e.preserves (P := fun s => s.stage c = _) hmm' hselected fun p hmp hpm' hstage => by
      rcases (e.steps p (by omega)).stage_cases c with heq | ⟨a, store, hlabel, -⟩
      · exact heq.trans hstage
      · exact absurd hlabel (halone p hmp hpm' a)
  have hstep := e.steps m' (by omega)
  rw [haction] at hstep
  obtain ⟨store, hmove⟩ := hstep.move
  rw [hkept] at hmove
  generalize (e.state (m' + 1)).stage c = after at hmove
  cases hmove with
  | replay hunexpired hhash => exact .inr (if_pos hhash).symm
  | conflict hunexpired hhash => exact .inr (if_neg hhash).symm
  | expire hexpired =>
    exact absurd ((isExpired_of_later hm'j hj.le hage).symm.trans hexpired) Bool.false_ne_true
  | abandon => exact .inl rfl

/-! ### A request and its repetition by another client -/

def firstRequest : KeyedRequest := ⟨py "k", py "a"⟩

def firstAnswer : StoredResponse := storedResponse (py "a") (py "first") 0

def allIdle : System Bool := ⟨0, emptyHourStore, fun _ => .idle⟩

def running : System Bool := allIdle.setStage true (.running firstRequest)

def responded : System Bool := running.setStage true (.storing firstRequest firstAnswer)

def inserted : System Bool :=
  { responded.setStage true .idle with store := emptyHourStore.put (py "k") firstAnswer }

def selected : System Bool := inserted.setStage false (.selected firstRequest firstAnswer)

def runThenReplay : Execution (KeyedStep (C := Bool)) 5 where
  state
    | 0 => allIdle
    | 1 => running
    | 2 => responded
    | 3 => inserted
    | 4 => selected
    | _ => selected.setStage false .idle
  label
    | 0 => .takes true (.select firstRequest)
    | 1 => .takes true (.respond firstRequest firstAnswer)
    | 2 => .takes true (.insert firstRequest firstAnswer)
    | 3 => .takes false (.select firstRequest)
    | _ => .takes false (.replay firstRequest firstAnswer)
  steps i hi := by
    interval_cases i
    · exact KeyedStep.takes (s := allIdle) (.select firstRequest)
    · exact KeyedStep.takes (s := running) (.respond (py "first"))
    · exact KeyedStep.takes (s := responded) .insert
    · exact KeyedStep.takes (s := inserted) (.select firstRequest)
    · exact KeyedStep.takes (s := selected) (.replay (by decide +kernel) rfl)

theorem answers_traced_runThenReplay :
    firstAnswer.payloadSha256 = firstRequest.payloadSha256 ∧
      TracedTo runThenReplay false firstRequest firstAnswer 4 True :=
  (answers_traced runThenReplay (fun _ => rfl) (by decide) false firstRequest firstAnswer).1 rfl

/-! ## The flow of one request -/

/-- The actions of `c` alone, with the time that passes between them. -/
inductive Solo (c : C) : System C → List Action → System C → Prop where
  | nil {s : System C} : Solo c s [] s
  | tick {s t u : System C} {actions : List Action} (h : KeyedStep s .tick t)
      (hrest : Solo c t actions u) : Solo c s actions u
  | takes {s t u : System C} {action : Action} {actions : List Action}
      (h : KeyedStep s (.takes c action) t) (hrest : Solo c t actions u) :
      Solo c s (action :: actions) u

theorem Solo.append {s t u : System C} {actions actions' : List Action} (h : Solo c s actions t)
    (h' : Solo c t actions' u) : Solo c s (actions ++ actions') u := by
  induction h with
  | nil => exact h'
  | tick hstep _ ih => exact .tick hstep (ih h')
  | takes hstep _ ih => exact .takes hstep (ih h')

/-- `s` with `c` at `stage`, at another time and over another store. -/
def System.moved (s : System C) (c : C) (clock : ℚ) (store : SqliteIdempotencyStore)
    (stage : Stage) : System C :=
  ⟨clock, store, Function.update s.stage c stage⟩

theorem moved_self {s : System C} {stage : Stage} (h : s.stage c = stage) :
    s.moved c s.clock s.store stage = s := by
  rw [System.moved, ← h, Function.update_eq_self]

section Moved

variable {clock clock' : ℚ} {store store' : SqliteIdempotencyStore} {stage stage' : Stage}
  {actions : List Action}

theorem Solo.tick_moved (hle : clock ≤ clock')
    (hrest : Solo c (s.moved c clock' store stage) actions t) :
    Solo c (s.moved c clock store stage) actions t :=
  .tick (.tick (s := s.moved c clock store stage) hle) hrest

theorem Solo.takes_moved (hmove : Move clock store stage action stage' store')
    (hrest : Solo c (s.moved c clock store' stage') actions t) :
    Solo c (s.moved c clock store stage) (action :: actions) t := by
  refine .takes (t := s.moved c clock store' stage') ?_ hrest
  have hstage : (s.moved c clock store stage).stage c = stage := Function.update_self ..
  have hstep := KeyedStep.takes (s := s.moved c clock store stage) (c := c) (hstage.symm ▸ hmove)
  rwa [System.setStage, System.moved, Function.update_idem] at hstep

end Moved

/-- The actions of a `get` that misses: no row, or an expired one that it drops. -/
def missActions (request : KeyedRequest) (dropsRow : Bool) : List Action :=
  .select request :: if dropsRow then [.expire, .delete] else []

theorem solo_miss {clock now : ℚ} {store : SqliteIdempotencyStore} {request : KeyedRequest}
    (hnow : clock ≤ now) (hget : (store.get now request.key).1 = none) :
    ∃ dropsRow, Solo c (s.moved c clock store .idle) (missActions request dropsRow)
      (s.moved c now (store.get now request.key).2 (.running request)) := by
  cases hrow : store.selectRow request.key with
  | none =>
    have hselect : Move clock store .idle _ _ store := .select request
    rw [hrow] at hselect
    have hstore : (store.get now request.key).2 = store := by
      simp [SqliteIdempotencyStore.get, hrow]
    rw [hstore]
    exact ⟨false, .takes_moved hselect (.tick_moved hnow .nil)⟩
  | some stored =>
    have hselect : Move clock store .idle _ _ store := .select request
    rw [hrow] at hselect
    have hage : store.isExpired now stored = true := by
      by_contra hunexpired
      simp [SqliteIdempotencyStore.get, hrow, hunexpired] at hget
    have hstore : (store.get now request.key).2 =
        store.deleteExpired request.key stored.createdAtEpoch := by
      simp [SqliteIdempotencyStore.get, hrow, hage]
    rw [hstore]
    exact ⟨true, .takes_moved hselect
      (.tick_moved hnow (.takes_moved (.expire hage) (.takes_moved .delete .nil)))⟩

/-- What a keyed request does when nobody interleaves with it, and the answer it gives. -/
inductive Handled (libs : Libraries M) (request : KeyedRequest) :
    List Action → Except PyExc ExtractResponse → Prop where
  /-- it ends before its `SELECT` -/
  | refused {exc : PyExc} : Handled libs request [] (.error exc)
  | replayed {stored : StoredResponse} (hhash : stored.payloadSha256 = request.payloadSha256) :
      Handled libs request [.select request, .replay request stored]
        ((parseResponse libs stored.responseJson).map ExtractResponse.asReplay)
  | conflicted {stored : StoredResponse} (hhash : stored.payloadSha256 ≠ request.payloadSha256) :
      Handled libs request [.select request, .conflict request stored]
        (.error (.extractError idempotencyConflict))
  | ran {stored : StoredResponse} {response : ExtractResponse} (dropsRow : Bool)
      (hjson : stored.responseJson = libs.responseText response)
      (hreplayed : response.extractMeta.replayed = false) :
      Handled libs request
        (missActions request dropsRow ++ [.respond request stored, .insert request stored])
        (.ok response)
  | failed {exc : PyExc} (dropsRow : Bool) :
      Handled libs request (missActions request dropsRow ++ [.abandon]) (.error exc)

/-- **`_run_extract_idempotent` is a path of the system**: a keyed request over the SQLite
    store that nobody interleaves with takes the client from rest to rest, leaves the others
    where they are and the store as the flow leaves it. -/
theorem runExtractIdempotent_steps (libs : Libraries M)
    (env : Surroundings SqliteIdempotencyStore) (storeId key : PyStr) (request : ExtractRequest)
    (w : World SqliteIdempotencyStore) (s : System C) (c : C) (hstage : s.stage c = .idle)
    (hstore : s.store = w.store) (hget : s.clock ≤ env.clockAtGet)
    (hput : env.clockAtGet ≤ env.clockAtPut) :
    ∃ actions t, Solo c s actions t ∧ t.stage = s.stage ∧
      t.store = (finalState ((runExtractIdempotent libs env
        (SqliteIdempotencyStore.toStore storeId) key request).run w)).store ∧
      Handled libs ⟨key, requestHash libs request⟩ actions
        (answerOf ((runExtractIdempotent libs env
          (SqliteIdempotencyStore.toStore storeId) key request).run w)) := by
  have hrest : ∀ {clock store}, (s.moved c clock store .idle).stage = s.stage := by
    intro clock store
    rw [System.moved, ← hstage, Function.update_eq_self]
  by_cases hencodable : request.encodable = true
  swap
  · rw [runExtractIdempotent_of_not_encodable (Bool.not_eq_true _ ▸ hencodable)]
    exact ⟨[], s, .nil, rfl, hstore, .refused⟩
  have hencodable : request.encodable = true := hencodable
  have hrun := run_get storeId env.clockAtGet key w.store
  have hstart := moved_self hstage
  rw [hstore] at hstart
  rw [← hstart]
  -- the `SELECT` finds the row before the clock moves to the moment of the age check
  cases hrow : (w.store.get env.clockAtGet key).1 with
  | some stored =>
    have hrow_at := hrow
    rw [get_eq_live, live_eq_some_iff] at hrow_at
    have hage : w.store.isExpired env.clockAtGet stored = false :=
      w.store.isExpired_eq_false_iff.mpr hrow_at.2
    rw [hrow, get_of_some w.store hrow] at hrun
    rw [runExtractIdempotent_of_hit hencodable hrun, finalState_outcomeIn, answerOf_outcomeIn,
      replayAnswer]
    have hselect : Move s.clock w.store .idle (.select ⟨key, requestHash libs request⟩) _ w.store :=
      .select _
    rw [hrow_at.1] at hselect
    by_cases hhash : stored.payloadSha256 = requestHash libs request
    · rw [if_pos hhash]
      exact ⟨_, s.moved c env.clockAtGet w.store .idle,
        .takes_moved hselect (.tick_moved hget (.takes_moved (.replay hage hhash) .nil)),
        hrest.trans hrest.symm, rfl, .replayed hhash⟩
    · rw [if_neg hhash]
      exact ⟨_, s.moved c env.clockAtGet w.store .idle,
        .takes_moved hselect (.tick_moved hget (.takes_moved (.conflict hage hhash) .nil)),
        hrest.trans hrest.symm, rfl, .conflicted hhash⟩
  | none =>
    obtain ⟨dropsRow, hmiss⟩ : ∃ dropsRow,
        Solo c (s.moved c s.clock w.store .idle)
          (missActions ⟨key, requestHash libs request⟩ dropsRow)
          (s.moved c env.clockAtGet (w.store.get env.clockAtGet key).2
            (.running ⟨key, requestHash libs request⟩)) := solo_miss hget hrow
    rw [hrow] at hrun
    generalize hdropped : (w.store.get env.clockAtGet key).2 = dropped at hrun hmiss
    obtain ⟨answer, made, charged, noted, hspec, hreplayed⟩ :=
      runExtract_spec libs env request w.budget
    obtain ⟨w', hextract, hafter⟩ := hspec { w with store := dropped } rfl
    -- a run that stores nothing is abandoned
    have habandon := hmiss.append (.takes_moved .abandon .nil)
    cases answer with
    | error exc =>
      rw [runExtractIdempotent_of_failure hencodable hrun hextract]
      exact ⟨_, _, habandon, hrest.trans hrest.symm, hafter.store.symm, .failed dropsRow⟩
    | ok response =>
      rw [runExtractIdempotent_of_success hencodable hrun hextract, dumpResponse]
      by_cases hresponse : response.encodable = true
      · have hrespond :
            Move env.clockAtPut dropped (.running ⟨key, requestHash libs request⟩) _ _ _ :=
          .respond (libs.responseText response)
        rw [if_pos hresponse]
        exact ⟨_, _, hmiss.append (.tick_moved hput
            (.takes_moved hrespond (.takes_moved .insert .nil))),
          hrest.trans hrest.symm, congrArg (SqliteIdempotencyStore.put · key _) hafter.store.symm,
          .ran dropsRow rfl (hreplayed response rfl)⟩
      · rw [if_neg hresponse]
        exact ⟨_, _, habandon, hrest.trans hrest.symm, hafter.store.symm, .failed dropsRow⟩

theorem runExtractIdempotent_steps_sample :
    ∃ actions t, Solo true (⟨0, emptyHourStore, fun _ => .idle⟩ : System Bool) actions t ∧
      t.stage = (fun _ => .idle) ∧
      t.store = (finalState ((runExtractIdempotent sampleLibs ((sampleCall 0 1).surroundings
        (py "store")) (SqliteIdempotencyStore.toStore (py "store")) (py "k1")
        sampleRequest).run (freshWorld emptyHourStore 10))).store ∧
      Handled sampleLibs ⟨py "k1", requestHash sampleLibs sampleRequest⟩ actions
        (answerOf ((runExtractIdempotent sampleLibs ((sampleCall 0 1).surroundings
          (py "store")) (SqliteIdempotencyStore.toStore (py "store")) (py "k1")
          sampleRequest).run (freshWorld emptyHourStore 10))) :=
  runExtractIdempotent_steps sampleLibs ((sampleCall 0 1).surroundings (py "store"))
    (py "store") (py "k1") sampleRequest (freshWorld emptyHourStore 10)
    (⟨0, emptyHourStore, fun _ => .idle⟩ : System Bool) true rfl rfl (le_refl 0) zero_le_one

end ExtractApi.KeyedClients
