import ExtractApi.KeyedClients

/-!
# The store file and the handles on it (`_init_db`)

A `SqliteIdempotencyStore` is a handle on a file that other processes, and other threads of
one process, may be opening, probing and closing at the same time.  Opening creates the
tables that are missing, mints the store's identity unless the file has one, and reads it
back; each statement is atomic, an `INSERT` and its `COMMIT` together.

`HandleStage.Sound` says what a handle may rely on, at each statement of `_init_db` and
after it; no step takes it away, since tables and identity only come and never go
(`StoreFile.Grows`).  Hence every handle on a file reports one identity
(`store_identity`), and what `KeyedClients` says of the requests holds however handles come
and go (`live_row_survives_restarts`).
-/

namespace ExtractApi.StoreDeployment

open KeyedClients PythonText TransitionSystem

/-! ## The file -/

/-- A row of `store_meta`. -/
structure MetaRow where
  key : PyStr
  value : PyStr
deriving DecidableEq

/-- The tables of the file that have been created. -/
structure StoreFile where
  idempotency : Option IdempotencyTable
  readinessProbe : Option (KeyedTable ProbeRow.id)
  storeMeta : Option (KeyedTable MetaRow.key)

/-- The file that connecting to a new path creates. -/
def StoreFile.new : StoreFile := ⟨none, none, none⟩

/-- `SELECT value FROM store_meta WHERE key = 'store_id'` -/
def StoreFile.storeId (file : StoreFile) : Option PyStr :=
  file.storeMeta.bind fun table => (table.select (py "store_id")).map MetaRow.value

/-- The rows of `idempotency`: none before the table is created. -/
def StoreFile.rows (file : StoreFile) : IdempotencyTable := file.idempotency.getD .empty

/-- The statements of `_init_db` that write. -/
inductive InitStatement where
  | createIdempotency
  | createReadinessProbe
  | createStoreMeta
  /-- `INSERT OR IGNORE` of `uuid.uuid4().hex`, committed -/
  | mintStoreId (uuid : PyStr)
deriving DecidableEq

def initStatements (uuid : PyStr) : List InitStatement :=
  [.createIdempotency, .createReadinessProbe, .createStoreMeta, .mintStoreId uuid]

/-- The file after a statement; `none` where a table it needs is missing. -/
def InitStatement.exec (file : StoreFile) : InitStatement → Option StoreFile
  | .createIdempotency => some { file with idempotency := some (file.idempotency.getD .empty) }
  | .createReadinessProbe =>
      some { file with readinessProbe := some (file.readinessProbe.getD .empty) }
  | .createStoreMeta => some { file with storeMeta := some (file.storeMeta.getD .empty) }
  | .mintStoreId uuid => file.storeMeta.map fun table =>
      { file with storeMeta := some (table.insertOrIgnore ⟨py "store_id", uuid⟩) }

/-- What the statement leaves in the file, whoever ran it first. -/
def InitStatement.Done (file : StoreFile) : InitStatement → Prop
  | .createIdempotency => file.idempotency.isSome
  | .createReadinessProbe => file.readinessProbe.isSome
  | .createStoreMeta => file.storeMeta.isSome
  | .mintStoreId _ => file.storeId.isSome

/-! ## The system -/

inductive HandleStage where
  | closed
  /-- the statements of `_init_db` still to run, and then its `SELECT` -/
  | opening (uuid : PyStr) (rest : List InitStatement)
  /-- `_store_id` is set -/
  | ready (storeId : PyStr)

structure Deployment (H C : Type) where
  clock : ℚ
  file : StoreFile
  handle : H → HandleStage
  client : C → Stage

inductive DeploymentEvent (H C : Type) where
  | tick
  | start (h : H) (uuid : PyStr)
  | execute (h : H)
  | opened (h : H)
  | probe (h : H)
  | close (h : H)
  | request (c : C) (action : Action)

variable {H C : Type} [DecidableEq H] [DecidableEq C]

def Deployment.setHandle (d : Deployment H C) (h : H) (stage : HandleStage) : Deployment H C :=
  { d with handle := Function.update d.handle h stage }

section Step

variable (ttlHours : ℤ) (host : C → H)

/-- The store as the requests of one handle see it; they read no row of the probe's. -/
def storeOf (storeId : PyStr) (table : IdempotencyTable) : SqliteIdempotencyStore where
  ttlHours := ttlHours
  storeId := storeId
  idempotency := table

/-- One statement of a handle or of a request.  A statement whose table or row is missing
    has no step: `store_identity` says that there is none. -/
inductive DeploymentStep : Deployment H C → DeploymentEvent H C → Deployment H C → Prop where
  | tick {d : Deployment H C} {now : ℚ} (hnow : d.clock ≤ now) :
      DeploymentStep d .tick { d with clock := now }
  | start {d : Deployment H C} {h : H} (uuid : PyStr) (hclosed : d.handle h = .closed) :
      DeploymentStep d (.start h uuid) (d.setHandle h (.opening uuid (initStatements uuid)))
  | execute {d : Deployment H C} {h : H} {uuid : PyStr} {statement : InitStatement}
      {rest : List InitStatement} {file : StoreFile}
      (hopening : d.handle h = .opening uuid (statement :: rest))
      (hexec : statement.exec d.file = some file) :
      DeploymentStep d (.execute h) { d.setHandle h (.opening uuid rest) with file := file }
  | opened {d : Deployment H C} {h : H} {uuid storeId : PyStr}
      (hopening : d.handle h = .opening uuid []) (hrow : d.file.storeId = some storeId) :
      DeploymentStep d (.opened h) (d.setHandle h (.ready storeId))
  | probe {d : Deployment H C} {h : H} {storeId : PyStr} {table : KeyedTable ProbeRow.id}
      (hready : d.handle h = .ready storeId) (htable : d.file.readinessProbe = some table) :
      DeploymentStep d (.probe h)
        { d with file := { d.file with
            readinessProbe := some (table.insertOrReplace ⟨1, d.clock, rfl⟩) } }
  /-- The process ends, or opening raises; its requests have ended or are given up first. -/
  | close {d : Deployment H C} {h : H} (hidle : ∀ c, host c = h → d.client c = .idle) :
      DeploymentStep d (.close h) (d.setHandle h .closed)
  | request {d : Deployment H C} {c : C} {storeId : PyStr} {table : IdempotencyTable}
      {action : Action} {stage : Stage} {store : SqliteIdempotencyStore}
      (hready : d.handle (host c) = .ready storeId) (htable : d.file.idempotency = some table)
      (hmove : Move d.clock (storeOf ttlHours storeId table) (d.client c) action stage store) :
      DeploymentStep d (.request c action)
        { d with
          file := { d.file with idempotency := some store.idempotency }
          client := Function.update d.client c stage }

end Step

/-- A statement that the handle, or a request on it, is about to run meets no table or no
    row: `OperationalError`, or the `TypeError` of `row[0]`. -/
def Stuck (d : Deployment H C) (h : H) : Prop :=
  match d.handle h with
  | .closed => False
  | .opening _ (statement :: _) => statement.exec d.file = none
  | .opening _ [] => d.file.storeId = none
  | .ready _ => d.file.idempotency = none ∨ d.file.readinessProbe = none

/-! ## What only grows -/

/-- Tables and identity stay once they are there. -/
structure StoreFile.Grows (file file' : StoreFile) : Prop where
  idempotency : file.idempotency.isSome → file'.idempotency.isSome
  readinessProbe : file.readinessProbe.isSome → file'.readinessProbe.isSome
  storeMeta : file.storeMeta.isSome → file'.storeMeta.isSome
  storeId : ∀ id, file.storeId = some id → file'.storeId = some id

theorem StoreFile.Grows.refl (file : StoreFile) : file.Grows file :=
  ⟨id, id, id, fun _ => id⟩

theorem StoreFile.Grows.trans {file file' file'' : StoreFile} (h : file.Grows file')
    (h' : file'.Grows file'') : file.Grows file'' :=
  ⟨h'.idempotency ∘ h.idempotency, h'.readinessProbe ∘ h.readinessProbe,
    h'.storeMeta ∘ h.storeMeta, fun id hid => h'.storeId id (h.storeId id hid)⟩

theorem InitStatement.Done.mono {file file' : StoreFile} {statement : InitStatement}
    (h : statement.Done file) (hgrows : file.Grows file') : statement.Done file' := by
  cases statement with
  | createIdempotency => exact hgrows.idempotency h
  | createReadinessProbe => exact hgrows.readinessProbe h
  | createStoreMeta => exact hgrows.storeMeta h
  | mintStoreId uuid =>
    obtain ⟨id, hid⟩ := Option.isSome_iff_exists.mp h
    exact Option.isSome_iff_exists.mpr ⟨id, hgrows.storeId id hid⟩

/-- The identity after `INSERT OR IGNORE`: the one that was there, or the minted one. -/
theorem storeId_mint {file file' : StoreFile} {uuid : PyStr}
    (h : (InitStatement.mintStoreId uuid).exec file = some file') :
    file'.storeId = some (file.storeId.getD uuid) := by
  obtain ⟨table, htable, rfl⟩ := Option.map_eq_some_iff.mp h
  simp only [StoreFile.storeId, htable, Option.bind_some, KeyedTable.select_insertOrIgnore,
    if_true]
  cases table.select (py "store_id") <;> rfl

theorem InitStatement.exec_grows {file file' : StoreFile} {statement : InitStatement}
    (h : statement.exec file = some file') : file.Grows file' ∧ statement.Done file' := by
  cases statement with
  | createIdempotency | createReadinessProbe =>
    cases h
    exact ⟨⟨fun h => by simp_all, fun h => by simp_all, id, fun _ => id⟩, rfl⟩
  | createStoreMeta =>
    cases h
    refine ⟨⟨id, id, fun _ => rfl, ?_⟩, rfl⟩
    intro id hid
    obtain ⟨table, htable, hrow⟩ := Option.bind_eq_some_iff.mp hid
    simpa [StoreFile.storeId, htable] using hrow
  | mintStoreId uuid =>
    have hid := storeId_mint h
    obtain ⟨table, htable, rfl⟩ := Option.map_eq_some_iff.mp h
    refine ⟨⟨id, id, fun _ => rfl, ?_⟩, Option.isSome_iff_exists.mpr ⟨_, hid⟩⟩
    intro id hold
    rw [hid, hold]
    rfl

variable {ttlHours : ℤ} {host : C → H} {d d' : Deployment H C} {l : DeploymentEvent H C}

theorem DeploymentStep.grows (h : DeploymentStep ttlHours host d l d') : d.file.Grows d'.file := by
  cases h with
  | execute hopening hexec => exact (InitStatement.exec_grows hexec).1
  | probe hready htable => exact ⟨id, fun _ => rfl, id, fun _ => id⟩
  | request hready htable hmove => exact ⟨fun _ => rfl, id, id, fun _ => id⟩
  | tick | start | opened | close => exact .refl _

/-! ## What a handle relies on -/

/-- What the file holds for a handle at a stage. -/
def HandleStage.Sound (file : StoreFile) : HandleStage → Prop
  | .closed => True
  | .opening uuid rest => ∃ ran, initStatements uuid = ran ++ rest ∧ ∀ st ∈ ran, st.Done file
  | .ready storeId =>
      file.storeId = some storeId ∧ file.idempotency.isSome ∧ file.readinessProbe.isSome

theorem HandleStage.Sound.mono {file file' : StoreFile} {stage : HandleStage}
    (h : stage.Sound file) (hgrows : file.Grows file') : stage.Sound file' := by
  cases stage with
  | closed => trivial
  | opening uuid rest =>
    obtain ⟨ran, hran, hall⟩ := h
    exact ⟨ran, hran, fun st hst => (hall st hst).mono hgrows⟩
  | ready storeId =>
    exact ⟨hgrows.storeId storeId h.1, hgrows.idempotency h.2.1, hgrows.readinessProbe h.2.2⟩

/-- After its writing statements, the file has all that `_init_db` creates. -/
theorem HandleStage.Sound.done {file : StoreFile} {uuid : PyStr}
    (h : (HandleStage.opening uuid []).Sound file) :
    ∀ st ∈ initStatements uuid, st.Done file := by
  obtain ⟨ran, hran, hall⟩ := h
  rw [List.append_nil] at hran
  rwa [hran]

/-- Every handle may rely on what its stage says. -/
def Sound (d : Deployment H C) : Prop := ∀ h, (d.handle h).Sound d.file

omit [DecidableEq C] in
theorem Sound.setHandle (hsound : Sound d) {h : H} {stage : HandleStage} {file : StoreFile}
    (hgrows : d.file.Grows file) (hstage : stage.Sound file) :
    Sound { d.setHandle h stage with file := file } := by
  intro h'
  by_cases heq : h' = h
  · subst heq
    show HandleStage.Sound file (Function.update d.handle h' stage h')
    rwa [Function.update_self]
  · show HandleStage.Sound file (Function.update d.handle h stage h')
    rw [Function.update_of_ne heq]
    exact (hsound h').mono hgrows

theorem DeploymentStep.sound (hsound : Sound d) (h : DeploymentStep ttlHours host d l d') :
    Sound d' := by
  have hgrows := h.grows
  cases h with
  | tick hnow => exact hsound
  | start uuid hclosed =>
    exact hsound.setHandle (.refl _) ⟨[], rfl, fun st hst => absurd hst List.not_mem_nil⟩
  | @execute h uuid statement rest file hopening hexec =>
    have hold := hsound h
    rw [hopening] at hold
    obtain ⟨ran, hran, hall⟩ := hold
    refine hsound.setHandle hgrows ⟨ran ++ [statement], by rw [hran]; simp, ?_⟩
    intro st hst
    rcases List.mem_append.mp hst with hst | hst
    · exact (hall st hst).mono hgrows
    · rw [List.mem_singleton.mp hst]
      exact (InitStatement.exec_grows hexec).2
  | @opened h uuid storeId hopening hrow =>
    have hold := hsound h
    rw [hopening] at hold
    have hdone := hold.done
    exact hsound.setHandle (.refl _)
      ⟨hrow, hdone .createIdempotency (by simp [initStatements]),
        hdone .createReadinessProbe (by simp [initStatements])⟩
  | close hidle => exact hsound.setHandle (.refl _) trivial
  | probe hready htable =>
    intro h'
    exact (hsound h').mono hgrows
  | request hready htable hmove =>
    intro h'
    exact (hsound h').mono hgrows

omit [DecidableEq H] [DecidableEq C] in
/-- A sound deployment has no handle that is stuck. -/
theorem Sound.not_stuck (hsound : Sound d) (h : H) : ¬ Stuck d h := by
  intro hstuck
  have hstage := hsound h
  unfold Stuck at hstuck
  cases hhandle : d.handle h with
  | closed =>
    rw [hhandle] at hstuck
    exact hstuck
  | opening uuid rest =>
    rw [hhandle] at hstuck hstage
    cases rest with
    | nil =>
      have hminted := hstage.done (.mintStoreId uuid) (by simp [initStatements])
      simp only [InitStatement.Done] at hminted
      rw [hstuck] at hminted
      cases hminted
    | cons statement rest =>
      cases statement with
      | mintStoreId uuid' =>
        -- the three `CREATE TABLE` come before it
        obtain ⟨ran, hran, hall⟩ := hstage
        have hcreated : InitStatement.createStoreMeta ∈ ran := by
          match ran, hran with
          | [_, _, _], hran => cases hran; simp
          | _ :: _ :: _ :: _ :: _, hran => simp [initStatements] at hran
        have htable := hall _ hcreated
        have hmissing := Option.map_eq_none_iff.mp hstuck
        rw [InitStatement.Done, hmissing] at htable
        cases htable
      | _ => cases hstuck
  | ready storeId =>
    rw [hhandle] at hstuck hstage
    obtain ⟨-, hidempotency, hprobe⟩ := hstage
    rcases hstuck with hnone | hnone
    · rw [hnone] at hidempotency
      cases hidempotency
    · rw [hnone] at hprobe
      cases hprobe

/-! ## One identity -/

/-- A handle comes to be opening by being started. -/
theorem DeploymentStep.start_of_opening (h : DeploymentStep ttlHours host d l d') {a : H}
    {uuid : PyStr} (hbefore : ¬ ∃ rest, d.handle a = .opening uuid rest)
    (hafter : ∃ rest, d'.handle a = .opening uuid rest) : l = .start a uuid := by
  obtain ⟨rest, hafter⟩ := hafter
  have hmoved : ∀ {b : H} {stage : HandleStage},
      Function.update d.handle b stage a = .opening uuid rest →
      a = b ∧ stage = .opening uuid rest := by
    intro b stage hopening
    by_cases hab : a = b
    · subst hab
      rw [Function.update_self] at hopening
      exact ⟨rfl, hopening⟩
    · rw [Function.update_of_ne hab] at hopening
      exact absurd ⟨rest, hopening⟩ hbefore
  cases h with
  | tick | probe | request => exact absurd ⟨rest, hafter⟩ hbefore
  | start uuid' hclosed =>
    obtain ⟨rfl, hstage⟩ := hmoved hafter
    cases hstage
    rfl
  | execute hopening hexec =>
    obtain ⟨rfl, hstage⟩ := hmoved hafter
    cases hstage
    exact absurd ⟨_, hopening⟩ hbefore
  | opened hopening hrow =>
    obtain ⟨rfl, hstage⟩ := hmoved hafter
    cases hstage
  | close hidle =>
    obtain ⟨rfl, hstage⟩ := hmoved hafter
    cases hstage

/-- The file comes to have an identity by `INSERT OR IGNORE`, where it had none. -/
theorem DeploymentStep.mint_of_storeId (h : DeploymentStep ttlHours host d l d') {id : PyStr}
    (hbefore : d.file.storeId ≠ some id) (hafter : d'.file.storeId = some id) :
    d.file.storeId = none ∧
      ∃ a uuid rest, d.handle a = .opening uuid (.mintStoreId id :: rest) := by
  cases h with
  | @execute a uuid statement rest file hopening hexec =>
    cases statement with
    | createIdempotency | createReadinessProbe =>
      cases hexec
      exact absurd hafter hbefore
    | createStoreMeta =>
      cases hexec
      have hkept : d.file.storeId = some id := by
        unfold StoreFile.storeId at hafter ⊢
        cases htable : d.file.storeMeta with
        | none => simp [htable] at hafter
        | some table => simpa [htable] using hafter
      exact absurd hkept hbefore
    | mintStoreId uuid' =>
      have hminted := (storeId_mint hexec).symm.trans hafter
      cases hold : d.file.storeId with
      | some old =>
        rw [hold] at hminted
        exact absurd (hold.trans hminted) hbefore
      | none =>
        rw [hold] at hminted
        cases hminted
        exact ⟨rfl, a, uuid, rest, hopening⟩
  | tick | start | opened | close | probe | request => exact absurd hafter hbefore

section Execution

variable {n : ℕ} {e : Execution (DeploymentStep ttlHours host) n}

/-- No handle is open yet. -/
def Deployment.Closed (d : Deployment H C) : Prop := ∀ h, d.handle h = .closed

theorem sound_at (hclosed : (e.state 0).Closed) {i : ℕ} (hi : i ≤ n) : Sound (e.state i) := by
  have hstart : Sound (e.state 0) := by
    intro h
    rw [hclosed h]
    trivial
  exact e.invariant hstart (fun _ _ _ hsound hstep => hstep.sound hsound) hi

theorem grows_at {i j : ℕ} (hij : i ≤ j) (hj : j ≤ n) :
    (e.state i).file.Grows (e.state j).file :=
  e.relates (R := fun d d' => d.file.Grows d'.file) (fun d => .refl d.file)
    (fun _ _ _ => StoreFile.Grows.trans) (fun _ _ _ => DeploymentStep.grows) hij hj

/-- A handle that is opening was started with its `uuid`. -/
theorem started_of_opening (hclosed : (e.state 0).Closed) {i : ℕ} (hi : i ≤ n) {h : H}
    {uuid : PyStr} {rest : List InitStatement}
    (hopening : (e.state i).handle h = .opening uuid rest) :
    ∃ k < i, e.label k = .start h uuid := by
  have hstart : ¬ ∃ rest, (e.state 0).handle h = .opening uuid rest := by
    rintro ⟨rest, hrest⟩
    cases (hclosed h).symm.trans hrest
  obtain ⟨k, -, hki, hbefore, hsince⟩ := e.since
    (P := fun d => ∃ rest, d.handle h = .opening uuid rest) (Nat.zero_le i) hstart ⟨rest, hopening⟩
  exact ⟨k, hki, (e.steps k (by omega)).start_of_opening hbefore (hsince (k + 1) (by omega) hki)⟩

/-- The identity of the file is its first one, or was minted by a handle that opened it. -/
theorem minted_of_storeId (hclosed : (e.state 0).Closed) {i : ℕ} (hi : i ≤ n) {id : PyStr}
    (hid : (e.state i).file.storeId = some id) :
    (e.state 0).file.storeId = some id ∨
      (e.state 0).file.storeId = none ∧ ∃ k < i, ∃ h, e.label k = .start h id := by
  by_cases hfirst : (e.state 0).file.storeId = some id
  · exact .inl hfirst
  obtain ⟨k, -, hki, hbefore, hsince⟩ :=
    e.since (P := fun d => d.file.storeId = some id) (Nat.zero_le i) hfirst hid
  obtain ⟨hnone, h, uuid, rest, hopening⟩ :=
    (e.steps k (by omega)).mint_of_storeId hbefore (hsince (k + 1) (by omega) hki)
  have hstage := sound_at hclosed (by omega : k ≤ n) h
  rw [hopening] at hstage
  obtain ⟨ran, hran, -⟩ := hstage
  have hmem : InitStatement.mintStoreId id ∈ initStatements uuid := by
    rw [hran]
    simp
  have huuid : id = uuid := by simpa [initStatements] using hmem
  subst huuid
  obtain ⟨m, hmk, hlabel⟩ := started_of_opening hclosed (by omega) hopening
  refine .inr ⟨?_, m, by omega, h, hlabel⟩
  cases hold : (e.state 0).file.storeId with
  | none => rfl
  | some old =>
    have hkept := (grows_at (Nat.zero_le k) (by omega)).storeId old hold
    rw [hnone] at hkept
    cases hkept

/-- **A store file has one identity, whoever opens it and however often**: from any file, at
    any moments of any interleaving of opening, probing, closing and serving requests, all
    handles that are ready report the same `store_id`; it is the one the file had, or else
    the `uuid` of a handle that was started on it; and no statement of `_init_db`, `probe` or a
    request ever meets a missing table or row. -/
theorem store_identity (e : Execution (DeploymentStep ttlHours host) n)
    (hclosed : (e.state 0).Closed) :
    (∀ i ≤ n, ∀ h, ¬ Stuck (e.state i) h) ∧
    ∀ i j h h' id id', i ≤ n → j ≤ n → (e.state i).handle h = .ready id →
      (e.state j).handle h' = .ready id' →
      id = id' ∧ ((e.state 0).file.storeId = some id ∨
        (e.state 0).file.storeId = none ∧ ∃ k < i, ∃ opener, e.label k = .start opener id) := by
  refine ⟨fun i hi h => (sound_at hclosed hi).not_stuck h, ?_⟩
  have hreports : ∀ {i h id}, i ≤ n → (e.state i).handle h = .ready id →
      (e.state i).file.storeId = some id ∧ (e.state n).file.storeId = some id := by
    intro i h id hi hready
    have hstage := sound_at hclosed hi h
    rw [hready] at hstage
    exact ⟨hstage.1, (grows_at hi (le_refl n)).storeId id hstage.1⟩
  intro i j h h' id id' hi hj hready hready'
  obtain ⟨hid, hlast⟩ := hreports hi hready
  obtain ⟨-, hlast'⟩ := hreports hj hready'
  exact ⟨Option.some.inj (hlast.symm.trans hlast'), minted_of_storeId hclosed hi hid⟩

/-! ## The requests, however handles come and go -/

variable (ttlHours) in
/-- The deployment as its requests see it: the identity is not part of what they read. -/
def Deployment.view (d : Deployment H C) : System C :=
  ⟨d.clock, storeOf ttlHours [] d.file.rows, d.client⟩

/-- The event as the requests see it: what handles do is the passing of no time. -/
def DeploymentEvent.keyed : DeploymentEvent H C → Event C
  | .request c action => .takes c action
  | .tick | .start _ _ | .execute _ | .opened _ | .probe _ | .close _ => .tick

omit [DecidableEq H] [DecidableEq C] in
theorem keyed_eq_takes_iff {c : C} {action : Action} :
    l.keyed = .takes c action ↔ l = .request c action := by
  cases l <;> simp [DeploymentEvent.keyed]

/-- No statement of a request reads the identity. -/
theorem move_storeOf {clock : ℚ} {storeId : PyStr} {table : IdempotencyTable}
    {stage stage' : Stage} {action : Action} {store : SqliteIdempotencyStore}
    (h : Move clock (storeOf ttlHours storeId table) stage action stage' store) :
    Move clock (storeOf ttlHours [] table) stage action stage'
      (storeOf ttlHours [] store.idempotency) := by
  cases h with
  | select request => exact .select request
  | replay hage hhash => exact .replay hage hhash
  | conflict hage hhash => exact .conflict hage hhash
  | expire hage => exact .expire hage
  | delete => exact .delete
  | respond responseJson => exact .respond responseJson
  | insert => exact .insert
  | abandon => exact .abandon
  | readCutoff => exact .readCutoff
  | sweep => exact .sweep

/-- **The deployment refines the system of its requests**: a statement of a request is its
    statement there, and no other step shows. -/
theorem DeploymentStep.keyed (h : DeploymentStep ttlHours host d l d') :
    KeyedStep (d.view ttlHours) l.keyed (d'.view ttlHours) := by
  have hstill : ∀ {file : StoreFile}, file.rows = d.file.rows → ∀ handle,
      KeyedStep (d.view ttlHours) .tick
        ((⟨d.clock, file, handle, d.client⟩ : Deployment H C).view ttlHours) := by
    intro file hrows handle
    rw [show ((⟨d.clock, file, handle, d.client⟩ : Deployment H C).view ttlHours) =
      { d.view ttlHours with clock := d.clock } from by simp [Deployment.view, hrows]]
    exact .tick (le_refl _)
  cases h with
  | tick hnow => exact .tick hnow
  | start | opened | close => exact hstill rfl _
  | probe hready htable => exact hstill rfl _
  | @execute a uuid statement rest file hopening hexec =>
    refine hstill ?_ _
    cases statement with
    | createIdempotency | createReadinessProbe | createStoreMeta =>
      cases hexec
      rfl
    | mintStoreId uuid' =>
      obtain ⟨table, htable, rfl⟩ := Option.map_eq_some_iff.mp hexec
      rfl
  | @request c storeId table action stage store hready htable hmove =>
    refine .takes (s := d.view ttlHours) ?_
    rw [show (d.view ttlHours).store = storeOf ttlHours [] table from by
      simp [Deployment.view, StoreFile.rows, htable]]
    exact move_storeOf hmove

/-- The execution of the requests alone. -/
def keyedExecution (e : Execution (DeploymentStep ttlHours host) n) :
    Execution (KeyedStep (C := C)) n :=
  e.map (Deployment.view ttlHours) DeploymentEvent.keyed fun i hi => (e.steps i hi).keyed

/-- **A live row outlasts the handles that wrote and read it.**  Let the row of a key be
    `stored` at step `i`, unexpired at step `j`, while handles are opened, probed and closed
    in any way.  Then it is there at `j`; a request of the key that selects in between is
    answered from it or given up; and the runs that end in between are at most as many as the
    requests in flight at `i`. -/
theorem live_row_survives_restarts (e : Execution (DeploymentStep ttlHours host) n)
    (hquiet : ∀ c, (e.state 0).client c = .idle) {i j : ℕ} (hij : i ≤ j) (hj : j < n)
    {key : PyStr} {stored : StoredResponse}
    (hrow : ((e.state i).view ttlHours).store.selectRow key = some stored)
    (hage : (storeOf ttlHours [] (e.state j).file.rows).isExpired (e.state j).clock stored =
      false) :
    ((e.state j).view ttlHours).store.selectRow key = some stored ∧
    (∀ m m' c request action, i ≤ m → m < m' → m' ≤ j → request.key = key →
      e.label m = .request c (.select request) →
      (∀ p, m < p → p < m' → ∀ a, e.label p ≠ .request c a) → e.label m' = .request c action →
      AnswersFrom request stored action) ∧
    {m | i ≤ m ∧ m ≤ j ∧ ∃ c request row, request.key = key ∧
      e.label m = .request c (.respond request row)}.encard ≤
      (InFlight ((e.state i).view ttlHours) key).encard := by
  have hlive := live_row_ends_runs (keyedExecution e) hquiet hj hrow hage
  refine ⟨KeyedClients.selectRow_of_later (e := keyedExecution e) hquiet hij hj.le hrow hage,
    ?_, ?_⟩
  · intro m m' c request action him hmm' hm'j hkey hselect halone haction
    refine hlive.1 m m' c request action him hmm' hm'j hkey
      (congrArg DeploymentEvent.keyed hselect) ?_ (congrArg DeploymentEvent.keyed haction)
    intro p hmp hpm' a htakes
    exact halone p hmp hpm' a (keyed_eq_takes_iff.mp htakes)
  · refine le_trans (Set.encard_le_encard ?_) hlive.2
    rintro m ⟨him, hmj, c, request, row, hkey, hrespond⟩
    exact ⟨him, hmj, c, request, row, hkey, congrArg DeploymentEvent.keyed hrespond⟩

end Execution

/-! ### Two handles open a new file, and one is closed on another -/

/-- What a handle's step leads to, where it is not stuck. -/
def Deployment.after (d : Deployment H C) : DeploymentEvent H C → Deployment H C
  | .start h uuid => d.setHandle h (.opening uuid (initStatements uuid))
  | .execute h =>
      match d.handle h with
      | .opening uuid (statement :: rest) =>
          { d.setHandle h (.opening uuid rest) with file := (statement.exec d.file).getD d.file }
      | _ => d
  | .opened h => d.setHandle h (.ready (d.file.storeId.getD []))
  | .close h => d.setHandle h .closed
  | .tick | .probe _ | .request _ _ => d

def newDeployment : Deployment H C := ⟨0, .new, fun _ => .closed, fun _ => .idle⟩

/-- The second handle mints the identity, between two statements of the first. -/
def bothOpenEvents : List (DeploymentEvent Bool Unit) :=
  [.start false (py "u1"), .start true (py "u2"), .execute false, .execute true, .execute true,
    .execute false, .execute true, .execute true, .execute false, .execute false, .opened true,
    .opened false]

def bothOpen : Execution (DeploymentStep (H := Bool) (C := Unit) 24 fun _ => false) 12 where
  state i := (bothOpenEvents.take i).foldl Deployment.after newDeployment
  label i := bothOpenEvents.getD i .tick
  steps i hi := by
    interval_cases i
    · exact .start (py "u1") rfl
    · exact .start (py "u2") rfl
    · exact .execute rfl rfl
    · exact .execute rfl rfl
    · exact .execute rfl rfl
    · exact .execute rfl rfl
    · exact .execute rfl rfl
    · exact .execute rfl rfl
    · exact .execute rfl rfl
    · exact .execute rfl rfl
    · exact .opened rfl rfl
    · exact .opened rfl rfl

theorem store_identity_bothOpen :
    (∀ h, ¬ Stuck (bothOpen.state 9) h) ∧
      (∀ id, (bothOpen.state 12).handle false = .ready id → id = py "u2") ∧
      ∃ k < 12, ∃ opener, bothOpen.label k = .start opener (py "u2") := by
  obtain ⟨hfree, hone⟩ := store_identity bothOpen fun _ => rfl
  have hready : (bothOpen.state 12).handle true = .ready (py "u2") := rfl
  refine ⟨hfree 9 (by decide), ?_, ?_⟩
  · intro id hid
    exact (hone 12 12 false true id (py "u2") (le_refl 12) (le_refl 12) hid hready).1
  · rcases (hone 12 12 true true _ _ (le_refl 12) (le_refl 12) hready hready).2 with
      hfirst | ⟨-, hminted⟩
    · cases hfirst
    · exact hminted

/-- One handle is ready, over a file with a row. -/
def servingDeployment : Deployment Unit Unit where
  clock := 0
  file := { (bothOpen.state 12).file with
    idempotency := some (KeyedTable.empty.insertOrIgnore ⟨py "k", firstAnswer⟩) }
  handle _ := .ready (py "u2")
  client _ := .idle

def reopens : Execution (DeploymentStep (H := Unit) (C := Unit) 24 id) 2 where
  state
    | 0 => servingDeployment
    | 1 => servingDeployment.setHandle () .closed
    | _ => (servingDeployment.setHandle () .closed).setHandle ()
        (.opening (py "u3") (initStatements (py "u3")))
  label
    | 0 => .close ()
    | _ => .start () (py "u3")
  steps i hi := by
    interval_cases i
    · exact DeploymentStep.close (d := servingDeployment) fun _ _ => rfl
    · exact DeploymentStep.start (d := servingDeployment.setHandle () .closed) (py "u3") rfl

theorem live_row_survives_restarts_reopens :
    ((reopens.state 1).view 24).store.selectRow (py "k") = some firstAnswer :=
  have hrow : ((reopens.state 0).view 24).store.selectRow (py "k") = some firstAnswer := rfl
  (live_row_survives_restarts reopens (fun _ => rfl) zero_le_one one_lt_two hrow
    (by decide +kernel)).1

end ExtractApi.StoreDeployment
