import Mathlib

/-!
# Programs that raise and keep their state

Code whose exceptions do not undo its side effects is a program in `EStateM`: a
raise carries the state it happened in.  This module adds to the library's `run`
equations the relations that proofs about such code live on.

* `Keeps f x`: whatever `x` does, it leaves the component `f` of the state alone,
  whether it returns or raises.
* `Preserves P x`: from a state with `P`, `x` ends in one.
* `Ensures P Q x`: from every state, `x` returns a value with `P` or raises an
  exception with `Q`.

Each has one rule per way of building a program.
-/

namespace ExtractApi.RaisingProgram

variable {ε σ τ α β : Type}

@[simp] theorem run_throw (e : ε) (s : σ) :
    (throw e : EStateM ε σ α).run s = .error e s := rfl

@[simp] theorem restore_save (s t : σ) :
    EStateM.Backtrackable.restore s (EStateM.Backtrackable.save t) = s := rfl

/-! ## Results -/

/-- The state of a result, returned or raised. -/
def finalState : EStateM.Result ε σ α → σ
  | .ok _ s => s
  | .error _ s => s

@[simp] theorem finalState_ok (a : α) (s : σ) :
    finalState (.ok a s : EStateM.Result ε σ α) = s := rfl

@[simp] theorem finalState_error (e : ε) (s : σ) :
    finalState (.error e s : EStateM.Result ε σ α) = s := rfl

/-- The value or exception of a result, without its state. -/
def answerOf : EStateM.Result ε σ α → Except ε α
  | .ok a _ => .ok a
  | .error e _ => .error e

/-- A pure outcome in a state. -/
def outcomeIn (s : σ) : Except ε α → EStateM.Result ε σ α
  | .ok a => .ok a s
  | .error e => .error e s

@[simp] theorem finalState_outcomeIn (s : σ) (x : Except ε α) :
    finalState (outcomeIn s x) = s := by cases x <;> rfl

@[simp] theorem answerOf_outcomeIn (s : σ) (x : Except ε α) :
    answerOf (outcomeIn s x) = x := by cases x <;> rfl

/-! ## Components of the state -/

/-- Run a program on a component of the state, its exceptions translated. -/
def focus {ε' : Type} (view : σ → τ) (write : σ → τ → σ) (raise : ε → ε') (x : EStateM ε τ α) :
    EStateM ε' σ α := fun s =>
  match x.run (view s) with
  | .ok a t => .ok a (write s t)
  | .error e t => .error (raise e) (write s t)

theorem run_focus {ε' : Type} (view : σ → τ) (write : σ → τ → σ) (raise : ε → ε')
    (x : EStateM ε τ α) (s : σ) :
    (focus view write raise x).run s = match x.run (view s) with
      | .ok a t => .ok a (write s t)
      | .error e t => .error (raise e) (write s t) := rfl

/-- `try: x finally: cleanup` -/
def finallyDo (x : EStateM ε σ α) (cleanup : EStateM ε σ PUnit) : EStateM ε σ α := do
  let value ← tryCatch x fun exc => do
    cleanup
    throw exc
  cleanup
  return value

theorem run_finallyDo (x : EStateM ε σ α) (g : σ → σ) (s : σ) :
    (finallyDo x (modify g)).run s = match x.run s with
      | .ok a s' => .ok a (g s')
      | .error e s' => .error e (g s') := by
  rw [finallyDo, EStateM.run_bind, EStateM.run_tryCatch]
  rcases x.run s with ⟨a, s'⟩ | ⟨e, s'⟩ <;> rfl

theorem finalState_finallyDo (x : EStateM ε σ α) (g : σ → σ) (s : σ) :
    finalState ((finallyDo x (modify g)).run s) = g (finalState (x.run s)) := by
  rw [run_finallyDo]
  rcases x.run s with ⟨a, s'⟩ | ⟨e, s'⟩ <;> rfl

/-! ## Frames -/

/-- `x` leaves `f` of the state alone. -/
def Keeps (f : σ → τ) (x : EStateM ε σ α) : Prop := ∀ s, f (finalState (x.run s)) = f s

section Keeps

variable {f : σ → τ}

theorem Keeps.pure (a : α) : Keeps f (pure a : EStateM ε σ α) := fun _ => rfl

theorem Keeps.throw (e : ε) : Keeps f (throw e : EStateM ε σ α) := fun _ => rfl

theorem Keeps.get : Keeps f (get : EStateM ε σ σ) := fun _ => rfl

theorem Keeps.modify {g : σ → σ} (h : ∀ s, f (g s) = f s) :
    Keeps f (modify g : EStateM ε σ PUnit) := h

theorem Keeps.bind {x : EStateM ε σ α} {k : α → EStateM ε σ β} (hx : Keeps f x)
    (hk : ∀ a, Keeps f (k a)) : Keeps f (x >>= k) := by
  intro s
  have hs := hx s
  rw [EStateM.run_bind]
  cases hrun : x.run s with
  | ok a s' =>
    rw [hrun] at hs
    exact (hk a s').trans hs
  | error e s' =>
    rw [hrun] at hs
    exact hs

theorem Keeps.tryCatch {x : EStateM ε σ α} {handler : ε → EStateM ε σ α} (hx : Keeps f x)
    (hh : ∀ e, Keeps f (handler e)) : Keeps f (tryCatch x handler) := by
  intro s
  have hs := hx s
  rw [EStateM.run_tryCatch]
  cases hrun : x.run s with
  | ok a s' =>
    rw [hrun] at hs
    exact hs
  | error e s' =>
    rw [hrun] at hs
    exact (hh e s').trans hs

theorem Keeps.of_ok {x : EStateM ε σ α} (hx : Keeps f x) {s s' : σ} {a : α}
    (h : x.run s = .ok a s') : f s' = f s := by
  have hs := hx s
  rwa [h] at hs

end Keeps

/-! ## Invariants -/

/-- From a state with `P`, `x` ends in one. -/
def Preserves (P : σ → Prop) (x : EStateM ε σ α) : Prop := ∀ s, P s → P (finalState (x.run s))

section Preserves

variable {P : σ → Prop}

theorem Keeps.preserves {f : σ → τ} {Q : τ → Prop} {x : EStateM ε σ α} (h : Keeps f x) :
    Preserves (fun s => Q (f s)) x := by
  intro s hs
  show Q (f (finalState (x.run s)))
  rwa [h s]

theorem Preserves.pure (a : α) : Preserves P (pure a : EStateM ε σ α) := fun _ hs => hs

theorem Preserves.throw (e : ε) : Preserves P (throw e : EStateM ε σ α) := fun _ hs => hs

theorem Preserves.get : Preserves P (get : EStateM ε σ σ) := fun _ hs => hs

theorem Preserves.modify {g : σ → σ} (h : ∀ s, P s → P (g s)) :
    Preserves P (modify g : EStateM ε σ PUnit) := h

theorem Preserves.bind {x : EStateM ε σ α} {k : α → EStateM ε σ β} (hx : Preserves P x)
    (hk : ∀ a, Preserves P (k a)) : Preserves P (x >>= k) := by
  intro s hs
  have hnext := hx s hs
  rw [EStateM.run_bind]
  cases hrun : x.run s with
  | ok a s' =>
    rw [hrun] at hnext
    exact hk a s' hnext
  | error e s' =>
    rw [hrun] at hnext
    exact hnext

theorem Preserves.tryCatch {x : EStateM ε σ α} {handler : ε → EStateM ε σ α}
    (hx : Preserves P x) (hh : ∀ e, Preserves P (handler e)) :
    Preserves P (tryCatch x handler) := by
  intro s hs
  have hnext := hx s hs
  rw [EStateM.run_tryCatch]
  cases hrun : x.run s with
  | ok a s' =>
    rw [hrun] at hnext
    exact hnext
  | error e s' =>
    rw [hrun] at hnext
    exact hh e s' hnext

end Preserves

/-! ## Outcomes -/

/-- From every state, `x` returns a value with `P` or raises an exception with `Q`. -/
def Ensures (P : α → Prop) (Q : ε → Prop) (x : EStateM ε σ α) : Prop :=
  ∀ s, match x.run s with
    | .ok a _ => P a
    | .error e _ => Q e

section Ensures

variable {P : α → Prop} {Q : ε → Prop}

theorem Ensures.pure {a : α} (h : P a) : Ensures P Q (pure a : EStateM ε σ α) := fun _ => h

theorem Ensures.throw {e : ε} (h : Q e) : Ensures P Q (throw e : EStateM ε σ α) := fun _ => h

theorem Ensures.modify {P : PUnit → Prop} {g : σ → σ} (h : P PUnit.unit) :
    Ensures P Q (modify g : EStateM ε σ PUnit) := fun _ => h

theorem Ensures.bind {R : β → Prop} {x : EStateM ε σ α} {k : α → EStateM ε σ β}
    (hx : Ensures P Q x) (hk : ∀ a, P a → Ensures R Q (k a)) : Ensures R Q (x >>= k) := by
  intro s
  have hs := hx s
  rw [EStateM.run_bind]
  cases hrun : x.run s with
  | ok a s' =>
    rw [hrun] at hs
    exact hk a hs s'
  | error e s' =>
    rw [hrun] at hs
    exact hs

theorem Ensures.tryCatch {R : ε → Prop} {x : EStateM ε σ α} {handler : ε → EStateM ε σ α}
    (hx : Ensures P R x) (hh : ∀ e, R e → Ensures P Q (handler e)) :
    Ensures P Q (tryCatch x handler) := by
  intro s
  have hs := hx s
  rw [EStateM.run_tryCatch]
  cases hrun : x.run s with
  | ok a s' =>
    rw [hrun] at hs
    exact hs
  | error e s' =>
    rw [hrun] at hs
    exact hh e hs s'

theorem Ensures.mono {P' : α → Prop} {Q' : ε → Prop} {x : EStateM ε σ α} (hx : Ensures P Q x)
    (hP : ∀ a, P a → P' a) (hQ : ∀ e, Q e → Q' e) : Ensures P' Q' x := by
  intro s
  have hs := hx s
  cases hrun : x.run s with
  | ok a s' =>
    rw [hrun] at hs
    exact hP a hs
  | error e s' =>
    rw [hrun] at hs
    exact hQ e hs

/-- Nothing need be known of a program whose outcome is not used. -/
theorem Ensures.trivial (x : EStateM ε σ α) : Ensures (fun _ => True) (fun _ => True) x := by
  intro s
  cases x.run s <;> exact True.intro

end Ensures

/-! ## Pure steps -/

theorem bind_eq_ok_iff {x : Except ε α} {k : α → Except ε β} {b : β} :
    (x >>= k) = .ok b ↔ ∃ a, x = .ok a ∧ k a = .ok b := by
  rcases x with e | a
  · simp [bind, Except.bind]
  · simp [bind, Except.bind]

theorem map_eq_ok_iff {x : Except ε α} {f : α → β} {b : β} :
    x.map f = .ok b ↔ ∃ a, x = .ok a ∧ f a = b := by
  rcases x with e | a
  · simp [Except.map]
  · simp [Except.map]

theorem mapError_eq_ok_iff {ε' : Type} {x : Except ε α} {f : ε → ε'} {a : α} :
    x.mapError f = .ok a ↔ x = .ok a := by
  rcases x with e | a'
  · simp [Except.mapError]
  · simp [Except.mapError]

/-- What a pure step raises, if it raises, has `P`. -/
def RaisesOnly (P : ε → Prop) (x : Except ε α) : Prop := ∀ e, x = .error e → P e

section RaisesOnly

variable {P : ε → Prop}

theorem RaisesOnly.ok (a : α) : RaisesOnly P (.ok a) := by
  intro e h
  cases h

theorem RaisesOnly.error {e : ε} (he : P e) : RaisesOnly P (.error e : Except ε α) := by
  intro e' h
  cases h
  exact he

theorem RaisesOnly.bind {x : Except ε α} {k : α → Except ε β} (hx : RaisesOnly P x)
    (hk : ∀ a, RaisesOnly P (k a)) : RaisesOnly P (x >>= k) := by
  rcases x with e | a
  · exact RaisesOnly.error (hx e rfl)
  · exact hk a

theorem RaisesOnly.map {x : Except ε α} (hx : RaisesOnly P x) (f : α → β) :
    RaisesOnly P (x.map f) := by
  rcases x with e | a
  · exact RaisesOnly.error (hx e rfl)
  · exact RaisesOnly.ok (f a)

end RaisesOnly

end ExtractApi.RaisingProgram
