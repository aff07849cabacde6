import ExtractApi.IdempotencyStore

/-!
# The SQLite store against an expiring map

The reference is the abstract map of `ExpiringMap`, with the creation time as stamp.
A store's table and the reference agree when they show the same entries from the
current clock value on; `get` and `sweep` only remove dead rows and keep the
agreement at any state.

`put` keeps it unless it meets an expired row of its own key: `INSERT OR IGNORE`
then drops the new response, while the reference stores it.  The main theorem says
that this is the only way a run can depart from the reference.
-/

namespace ExtractApi

open PythonText ExpiringMap

/-- What a store stands for: the entry of every key. -/
abbrev Reference := PyStr → Option StoredResponse

/-! ## Calls -/

inductive StoreOp where
  | get (key : PyStr)
  | put (key : PyStr) (stored : StoredResponse)
  | sweep

/-- An operation with the clock it reads.  A put stores a response created then. -/
structure StoreCall where
  now : ℚ
  op : StoreOp

/-- The response as the put of the call stores it. -/
def StoreCall.stamped (call : StoreCall) (stored : StoredResponse) : StoredResponse :=
  { stored with createdAtEpoch := call.now }

/-- The store after the call. -/
def StoreCall.run (call : StoreCall) (store : SqliteIdempotencyStore) : SqliteIdempotencyStore :=
  match call.op with
  | .get key => (store.get call.now key).2
  | .put key stored => store.put key (call.stamped stored)
  | .sweep => (store.sweep call.now).2

/-- The reference after the call: a `get` or a `sweep` changes nothing. -/
def StoreCall.runRef (call : StoreCall) (ttl : ℚ) (m : Reference) : Reference :=
  match call.op with
  | .get _ => m
  | .put key stored =>
      ExpiringMap.put StoredResponse.createdAtEpoch ttl m call.now key (call.stamped stored)
  | .sweep => m

def runCalls (store : SqliteIdempotencyStore) (calls : List StoreCall) :
    SqliteIdempotencyStore :=
  calls.foldl (fun store call => call.run store) store

def runCallsRef (ttl : ℚ) (m : Reference) (calls : List StoreCall) : Reference :=
  calls.foldl (fun m call => call.runRef ttl m) m

/-- The call is not a put that meets an expired row of its key. -/
def StoreCall.Unblocked (call : StoreCall) (store : SqliteIdempotencyStore) : Prop :=
  match call.op with
  | .put key _ => ∀ old, store.selectRow key = some old → store.isExpired call.now old = false
  | _ => True

/-- No put of the run meets an expired row of its key. -/
def PutsUnblocked : SqliteIdempotencyStore → List StoreCall → Prop
  | _, [] => True
  | store, call :: calls => call.Unblocked store ∧ PutsUnblocked (call.run store) calls

/-- The entries that the store and the reference show from `τ` on. -/
abbrev Agree (τ : ℚ) (store : SqliteIdempotencyStore) (m : Reference) : Prop :=
  ViewsAgree StoredResponse.createdAtEpoch store.ttlSeconds τ store.selectRow m

/-! ## One operation -/

section

variable (store : SqliteIdempotencyStore) {now : ℚ} {key : PyStr}

theorem live_of_expired {stored : StoredResponse} (h : store.isExpired now stored = true) :
    live StoredResponse.createdAtEpoch store.ttlSeconds now (some stored) = none :=
  live_some_of_lt (store.isExpired_eq_true_iff.mp h)

theorem live_of_unexpired {stored : StoredResponse} (h : store.isExpired now stored = false) :
    live StoredResponse.createdAtEpoch store.ttlSeconds now (some stored) = some stored :=
  live_some_of_le (store.isExpired_eq_false_iff.mp h)

/-- A `get` answers what the table shows at its clock value. -/
theorem get_eq_live : (store.get now key).1 =
    live StoredResponse.createdAtEpoch store.ttlSeconds now (store.selectRow key) := by
  unfold SqliteIdempotencyStore.get
  cases hrow : store.selectRow key with
  | none => rfl
  | some stored =>
    cases hexp : store.isExpired now stored with
    | true => simp [hexp, live_of_expired store hexp]
    | false => simp [hexp, live_of_unexpired store hexp]

theorem selectRow_get_of_none (h : (store.get now key).1 = none) :
    (store.get now key).2.selectRow key = none := by
  unfold SqliteIdempotencyStore.get at h ⊢
  cases hrow : store.selectRow key with
  | none => simp [hrow]
  | some stored =>
    cases hexp : store.isExpired now stored with
    | true => simp [hexp, SqliteIdempotencyStore.selectRow_deleteExpired, hrow]
    | false => simp [hrow, hexp] at h

theorem get_of_some {stored : StoredResponse} (h : (store.get now key).1 = some stored) :
    (store.get now key).2 = store := by
  unfold SqliteIdempotencyStore.get at h ⊢
  cases hrow : store.selectRow key with
  | none => rfl
  | some stored' =>
    cases hexp : store.isExpired now stored' with
    | true => simp [hrow, hexp] at h
    | false => simp [hexp]

@[simp] theorem ttlSeconds_get :
    (store.get now key).2.ttlSeconds = store.ttlSeconds := by
  unfold SqliteIdempotencyStore.get
  split
  · rfl
  · split <;> rfl

theorem get_purges (key key' : PyStr) :
    (store.get now key).2.selectRow key' = store.selectRow key' ∨
      (store.get now key).2.selectRow key' = none ∧
        live StoredResponse.createdAtEpoch store.ttlSeconds now (store.selectRow key') = none := by
  cases hget : (store.get now key).1 with
  | some stored => exact Or.inl (by rw [get_of_some store hget])
  | none =>
    by_cases hkey : key' = key
    · subst hkey
      exact Or.inr ⟨selectRow_get_of_none store hget, by rw [← get_eq_live, hget]⟩
    · left
      unfold SqliteIdempotencyStore.get
      split
      · rfl
      · split
        · rw [SqliteIdempotencyStore.selectRow_deleteExpired]
          cases store.selectRow key' <;> simp [hkey]
        · rfl

theorem sweep_purges (key' : PyStr) :
    (store.sweep now).2.selectRow key' = store.selectRow key' ∨
      (store.sweep now).2.selectRow key' = none ∧
        live StoredResponse.createdAtEpoch store.ttlSeconds now (store.selectRow key') = none := by
  simp only [SqliteIdempotencyStore.sweep, SqliteIdempotencyStore.selectRow_deleteBefore]
  cases store.selectRow key' with
  | none => exact Or.inl rfl
  | some stored =>
    by_cases hold : stored.createdAtEpoch < store.cutoff now
    · refine Or.inr ⟨by simp [hold], live_some_of_lt ?_⟩
      unfold SqliteIdempotencyStore.cutoff at hold
      linarith
    · exact Or.inl (by simp [hold])

end

/-! ## One call -/

section

variable {store : SqliteIdempotencyStore} {m : Reference} {call : StoreCall} {τ : ℚ}

@[simp] theorem StoreCall.ttlSeconds_run (call : StoreCall) (store : SqliteIdempotencyStore) :
    (call.run store).ttlSeconds = store.ttlSeconds := by
  unfold StoreCall.run
  split
  · exact ttlSeconds_get store
  · rfl
  · rfl

/-- **An unblocked call keeps the agreement.** -/
theorem StoreCall.run_agree (h : Agree τ store m) (hnow : τ ≤ call.now)
    (hunblocked : call.Unblocked store) :
    Agree call.now (call.run store) (call.runRef store.ttlSeconds m) := by
  have h := h.mono hnow
  obtain ⟨now, op⟩ := call
  unfold Agree
  rw [StoreCall.ttlSeconds_run]
  cases op with
  | get key => exact h.purge (get_purges store key)
  | sweep => exact h.purge (sweep_purges store)
  | put key stored =>
    have hfree : store.selectRow key = none ∨
        (live StoredResponse.createdAtEpoch store.ttlSeconds now (store.selectRow key)).isSome := by
      cases hrow : store.selectRow key with
      | none => exact Or.inl rfl
      | some old => exact Or.inr (by rw [live_of_unexpired store (hunblocked old hrow)]; rfl)
    show ViewsAgree _ _ _ (store.put key _).selectRow _
    rw [SqliteIdempotencyStore.selectRow_put_eq]
    exact h.put hfree

/-- A blocked put shows at once: the reference has the response, the store has none. -/
theorem StoreCall.disagree_of_blocked (h : Agree τ store m) (hnow : τ ≤ call.now)
    (httl : 0 ≤ store.ttlSeconds) (hblocked : ¬ call.Unblocked store) :
    ∃ key, ((call.run store).get call.now key).1 ≠
      ExpiringMap.get StoredResponse.createdAtEpoch store.ttlSeconds
        (call.runRef store.ttlSeconds m) call.now key := by
  obtain ⟨now, op⟩ := call
  cases op with
  | get key => exact absurd trivial hblocked
  | sweep => exact absurd trivial hblocked
  | put key stored =>
    simp only [StoreCall.Unblocked, not_forall, Bool.not_eq_false] at hblocked
    obtain ⟨old, hrow, hexp⟩ := hblocked
    have hdead : live StoredResponse.createdAtEpoch store.ttlSeconds now (m key) = none := by
      rw [← h now hnow key, hrow, live_of_expired store hexp]
    have hfresh : now - (StoreCall.stamped ⟨now, .put key stored⟩ stored).createdAtEpoch ≤
        store.ttlSeconds := by
      show now - now ≤ _
      linarith
    refine ⟨key, ?_⟩
    rw [get_eq_live, StoreCall.ttlSeconds_run]
    simp only [StoreCall.run, SqliteIdempotencyStore.selectRow_put, hrow, Option.some_or,
      live_of_expired store hexp, StoreCall.runRef, ExpiringMap.get, ExpiringMap.put, hdead,
      Option.isSome_none, Bool.false_eq_true, if_false, Function.update_self,
      live_some_of_le hfresh]
    intro hcontra
    cases hcontra

end

/-! ## Whole runs -/

theorem runCalls_agree_iff {ttl : ℚ} (httl : 0 ≤ ttl) (calls : List StoreCall) :
    ∀ {store : SqliteIdempotencyStore} {m : Reference} {τ : ℚ},
      store.ttlSeconds = ttl → Agree τ store m →
      (τ :: calls.map StoreCall.now).Pairwise (· ≤ ·) →
      ((∀ made, made <+: calls → ∀ now, τ ≤ now → (∀ call ∈ made, call.now ≤ now) → ∀ key,
        ((runCalls store made).get now key).1 =
          ExpiringMap.get StoredResponse.createdAtEpoch ttl (runCallsRef ttl m made) now key) ↔
        PutsUnblocked store calls) := by
  induction calls with
  | nil =>
    rintro store m τ rfl hagree -
    refine ⟨fun _ => trivial, ?_⟩
    intro _ made hmade now hnow _ key
    obtain rfl := List.prefix_nil.mp hmade
    rw [get_eq_live]
    exact hagree now hnow key
  | cons call calls ih =>
    rintro store m τ rfl hagree hclock
    have hnow : τ ≤ call.now := List.rel_of_pairwise_cons hclock List.mem_cons_self
    by_cases hunblocked : call.Unblocked store
    · have hih := ih (call.ttlSeconds_run store) (StoreCall.run_agree hagree hnow hunblocked)
        hclock.of_cons
      constructor
      · intro hall
        refine ⟨hunblocked, hih.mp ?_⟩
        intro made hmade now hnow' hmax key
        refine hall (call :: made) ((List.prefix_cons_inj call).mpr hmade) now
          (hnow.trans hnow') ?_ key
        intro c hc
        rcases List.mem_cons.mp hc with rfl | hc
        · exact hnow'
        · exact hmax c hc
      · rintro ⟨-, hputs⟩ made hmade now hnow' hmax key
        -- a prefix is empty, or starts with this call and reads no earlier clock
        rcases List.prefix_cons_iff.mp hmade with rfl | ⟨rest, rfl, hrest⟩
        · rw [get_eq_live]
          exact hagree now hnow' key
        · exact hih.mpr hputs rest hrest now (hmax call List.mem_cons_self)
            (fun c hc => hmax c (List.mem_cons_of_mem _ hc)) key
    · refine ⟨fun hall => ?_, fun hputs => absurd hputs.1 hunblocked⟩
      obtain ⟨key, hne⟩ := StoreCall.disagree_of_blocked hagree hnow httl hunblocked
      refine absurd (hall [call] ?_ call.now hnow ?_ key) hne
      · exact (List.prefix_cons_inj call).mpr List.nil_prefix
      · intro c hc
        rw [List.mem_singleton.mp hc]

/-- **The store refines the expiring map exactly on the runs whose puts meet no expired
    row of their key.**  The store may be opened at any contents; the reference starts as
    what the file then holds.  A get may follow any of the run's calls. -/
theorem runCalls_refines_iff (store : SqliteIdempotencyStore) (start : ℚ)
    (calls : List StoreCall) (httl : 0 < store.ttlHours)
    (hclock : (start :: calls.map StoreCall.now).Pairwise (· ≤ ·)) :
    (∀ made, made <+: calls → ∀ now, start ≤ now → (∀ call ∈ made, call.now ≤ now) → ∀ key,
      ((runCalls store made).get now key).1 =
        ExpiringMap.get StoredResponse.createdAtEpoch store.ttlSeconds
          (runCallsRef store.ttlSeconds store.selectRow made) now key) ↔
      PutsUnblocked store calls := by
  have hseconds : 0 ≤ store.ttlSeconds := by
    have : (0 : ℚ) < store.ttlHours := by exact_mod_cast httl
    unfold SqliteIdempotencyStore.ttlSeconds
    linarith
  exact runCalls_agree_iff hseconds calls rfl (ViewsAgree.refl _) hclock

/-! ### A blocked put -/

/-- An empty store with a time to live of one hour. -/
def emptyHourStore : SqliteIdempotencyStore where
  ttlHours := 1
  storeId := py "store"
  idempotency := KeyedTable.empty

/-- Two puts of one key, the second after the first response expired. -/
def putPastExpiry : List StoreCall :=
  [⟨0, .put (py "k") ⟨py "a", py "first", 200, 0⟩⟩,
    ⟨3601, .put (py "k") ⟨py "b", py "second", 200, 0⟩⟩]

theorem runCalls_refines_iff_putPastExpiry :
    (∀ made, made <+: putPastExpiry → ∀ now, 0 ≤ now → (∀ call ∈ made, call.now ≤ now) →
      ∀ key, ((runCalls emptyHourStore made).get now key).1 =
        ExpiringMap.get StoredResponse.createdAtEpoch emptyHourStore.ttlSeconds
          (runCallsRef emptyHourStore.ttlSeconds emptyHourStore.selectRow made) now key) ↔
      PutsUnblocked emptyHourStore putPastExpiry :=
  runCalls_refines_iff emptyHourStore 0 putPastExpiry (by decide) (by decide +kernel)

/-- The second response is lost: a get right after its put finds nothing, and the
    reference finds it. -/
theorem putPastExpiry_lost :
    ((runCalls emptyHourStore putPastExpiry).get 3601 (py "k")).1 = none ∧
      ExpiringMap.get StoredResponse.createdAtEpoch emptyHourStore.ttlSeconds
        (runCallsRef emptyHourStore.ttlSeconds emptyHourStore.selectRow putPastExpiry) 3601
        (py "k") = some ⟨py "b", py "second", 200, 3601⟩ := by
  decide +kernel

end ExtractApi
