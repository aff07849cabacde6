import ExtractApi.KeyedTable
import ExtractApi.ExpiringMap
import ExtractApi.ServiceState

/-!
# The idempotency store (`api/idempotency.py`)

`SqliteIdempotencyStore` is one file: its identity, its time to live and the tables
`idempotency` and `readiness_probe`.  The SQL statements of the store are functions on the
table, each one atomic; `get`, `put` and `sweep` run them one after another at one clock value.
`StoreInterleaving` lets other clients in between.

`IdempotencyStore` is the protocol the service is written against: any store whose
operations may change their state and may raise.
-/

namespace ExtractApi

open PythonText

structure StoredResponse where
  payloadSha256 : PyStr
  responseJson : PyStr
  statusCode : ℤ
  createdAtEpoch : ℚ
deriving DecidableEq, Repr

/-- A row of the table `idempotency`. -/
structure Row where
  key : PyStr
  stored : StoredResponse
deriving DecidableEq, Repr

abbrev IdempotencyTable := KeyedTable Row.key

/-- A row of the table `readiness_probe`. -/
structure ProbeRow where
  id : ℤ
  probedAtEpoch : ℚ
  /-- `CHECK (id = 1)` -/
  check : id = 1

structure SqliteIdempotencyStore where
  ttlHours : ℤ
  storeId : PyStr
  idempotency : IdempotencyTable
  readinessProbe : KeyedTable ProbeRow.id := .empty

namespace SqliteIdempotencyStore

variable (store : SqliteIdempotencyStore)

/-- `_ttl_seconds` -/
def ttlSeconds : ℚ := store.ttlHours * 3600

/-- `_is_expired`, with the clock it reads -/
def isExpired (now : ℚ) (stored : StoredResponse) : Bool :=
  decide (store.ttlSeconds < now - stored.createdAtEpoch)

/-! ## The statements -/

/-- `SELECT … FROM idempotency WHERE key = ?` -/
def selectRow (key : PyStr) : Option StoredResponse :=
  (store.idempotency.select key).map Row.stored

/-- `_delete_expired`: the exact row that was read, by key and timestamp. -/
def deleteExpired (key : PyStr) (createdAtEpoch : ℚ) : SqliteIdempotencyStore :=
  { store with
    idempotency := store.idempotency.deleteWhere fun r =>
      decide (r.key = key ∧ r.stored.createdAtEpoch = createdAtEpoch) }

/-- `INSERT OR IGNORE INTO idempotency …` -/
def put (key : PyStr) (stored : StoredResponse) : SqliteIdempotencyStore :=
  { store with idempotency := store.idempotency.insertOrIgnore ⟨key, stored⟩ }

/-- The `cutoff` of a sweep. -/
def cutoff (now : ℚ) : ℚ := now - store.ttlSeconds

/-- `DELETE FROM idempotency WHERE created_at_epoch < ?` -/
def deleteBefore (cutoff : ℚ) : SqliteIdempotencyStore :=
  { store with
    idempotency := store.idempotency.deleteWhere fun r =>
      decide (r.stored.createdAtEpoch < cutoff) }

/-- `INSERT OR REPLACE INTO readiness_probe …` -/
def probe (now : ℚ) : SqliteIdempotencyStore :=
  { store with readinessProbe := store.readinessProbe.insertOrReplace ⟨1, now, rfl⟩ }

/-! ## The operations -/

/-- `get`: an expired hit is no hit, and its row is dropped. -/
def get (now : ℚ) (key : PyStr) : Option StoredResponse × SqliteIdempotencyStore :=
  match store.selectRow key with
  | none => (none, store)
  | some stored =>
      if store.isExpired now stored then (none, store.deleteExpired key stored.createdAtEpoch)
      else (some stored, store)

/-- `sweep`, with `cur.rowcount` -/
def sweep (now : ℚ) : ℕ × SqliteIdempotencyStore :=
  (store.idempotency.rowCount fun r => decide (r.stored.createdAtEpoch < store.cutoff now),
    store.deleteBefore (store.cutoff now))

/-! ## What each statement does to a lookup -/

/-- However often the store is probed, it holds one probe row, that of the last probe. -/
theorem readinessProbe_probe (now : ℚ) :
    (store.probe now).readinessProbe.select 1 = some ⟨1, now, rfl⟩ ∧
      (store.probe now).readinessProbe.rows.length = 1 := by
  have hselect : (store.probe now).readinessProbe.select 1 = some ⟨1, now, rfl⟩ := by
    rw [probe, KeyedTable.select_insertOrReplace, if_pos rfl]
  have hmem := ((KeyedTable.select_eq_some_iff _).mp hselect).1
  refine ⟨hselect, le_antisymm ?_ (List.length_pos_of_mem hmem)⟩
  exact KeyedTable.length_le_one _ fun row _ => row.check

@[simp] theorem ttlSeconds_deleteExpired (key : PyStr) (created : ℚ) :
    (store.deleteExpired key created).ttlSeconds = store.ttlSeconds := rfl

@[simp] theorem ttlSeconds_put (key : PyStr) (stored : StoredResponse) :
    (store.put key stored).ttlSeconds = store.ttlSeconds := rfl

@[simp] theorem ttlSeconds_deleteBefore (cutoff : ℚ) :
    (store.deleteBefore cutoff).ttlSeconds = store.ttlSeconds := rfl

theorem selectRow_put (key key' : PyStr) (stored : StoredResponse) :
    (store.put key stored).selectRow key' =
      (store.selectRow key').or (if key = key' then some stored else none) := by
  simp only [selectRow, put, KeyedTable.select_insertOrIgnore]
  by_cases hkey : key = key'
  · subst hkey
    cases store.idempotency.select key <;> simp
  · simp [hkey]

theorem selectRow_put_eq (key : PyStr) (stored : StoredResponse) :
    (store.put key stored).selectRow = fun key' =>
      (store.selectRow key').or (if key = key' then some stored else none) :=
  funext fun key' => store.selectRow_put key key' stored

theorem selectRow_deleteExpired (key key' : PyStr) (created : ℚ) :
    (store.deleteExpired key created).selectRow key' =
      (store.selectRow key').filter fun stored =>
        !decide (key' = key ∧ stored.createdAtEpoch = created) := by
  simp only [selectRow, deleteExpired, KeyedTable.select_deleteWhere]
  cases hselect : store.idempotency.select key' with
  | none => rfl
  | some r =>
    have hkey := store.idempotency.key_of_select hselect
    subst hkey
    simp only [Option.filter_some, Option.map_some]
    split <;> rfl

theorem selectRow_deleteBefore (cutoff : ℚ) (key : PyStr) :
    (store.deleteBefore cutoff).selectRow key =
      (store.selectRow key).filter fun stored => !decide (stored.createdAtEpoch < cutoff) := by
  simp only [selectRow, deleteBefore, KeyedTable.select_deleteWhere]
  cases store.idempotency.select key with
  | none => rfl
  | some r =>
    simp only [Option.filter_some, Option.map_some]
    split <;> rfl

theorem isExpired_eq_false_iff {now : ℚ} {stored : StoredResponse} :
    store.isExpired now stored = false ↔ now - stored.createdAtEpoch ≤ store.ttlSeconds := by
  simp [isExpired]

theorem isExpired_eq_true_iff {now : ℚ} {stored : StoredResponse} :
    store.isExpired now stored = true ↔ store.ttlSeconds < now - stored.createdAtEpoch := by
  simp [isExpired]

end SqliteIdempotencyStore

/-! ## The protocol -/

/-- `IdempotencyStore`, as far as requests use it: a store with states `S`. -/
structure IdempotencyStore (S : Type) where
  storeId : PyStr
  get : ℚ → PyStr → EStateM PyExc S (Option StoredResponse)
  put : PyStr → StoredResponse → EStateM PyExc S Unit
  probe : ℚ → EStateM PyExc S Unit

/-- The SQLite store behind the protocol.  Its statements do not raise here. -/
def SqliteIdempotencyStore.toStore (storeId : PyStr) :
    IdempotencyStore SqliteIdempotencyStore where
  storeId := storeId
  get now key := modifyGet fun store => store.get now key
  put key stored := modify fun store => store.put key stored
  probe now := modify fun store => store.probe now

end ExtractApi
