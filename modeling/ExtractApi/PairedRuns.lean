import ExtractApi.RaisingProgram

/-!
# Two runs side by side

Relational rules for programs that raise and keep their state.  Two programs are `Coupled`
when, from related states, both return related values or both raise related exceptions, in
related states again.
-/

namespace ExtractApi.PairedRuns

variable {ε ε' σ σ' α α' β β' : Type}

/-- Both returned or both raised, related. -/
inductive Related (R : σ → σ' → Prop) (A : α → α' → Prop) (E : ε → ε' → Prop) :
    EStateM.Result ε σ α → EStateM.Result ε' σ' α' → Prop
  | returned {a : α} {a' : α'} {s : σ} {s' : σ'} : A a a' → R s s' →
      Related R A E (.ok a s) (.ok a' s')
  | raised {e : ε} {e' : ε'} {s : σ} {s' : σ'} : E e e' → R s s' →
      Related R A E (.error e s) (.error e' s')

def Coupled (R : σ → σ' → Prop) (A : α → α' → Prop) (E : ε → ε' → Prop)
    (x : EStateM ε σ α) (x' : EStateM ε' σ' α') : Prop :=
  ∀ s s', R s s' → Related R A E (x.run s) (x'.run s')

/-- Both pure steps succeed or both fail, related. -/
inductive Matched (A : α → α' → Prop) (E : ε → ε' → Prop) : Except ε α → Except ε' α' → Prop
  | ok {a : α} {a' : α'} : A a a' → Matched A E (.ok a) (.ok a')
  | error {e : ε} {e' : ε'} : E e e' → Matched A E (.error e) (.error e')

section Rules

variable {R : σ → σ' → Prop} {A : α → α' → Prop} {B : β → β' → Prop} {E : ε → ε' → Prop}

theorem Related.states {r : EStateM.Result ε σ α} {r' : EStateM.Result ε' σ' α'}
    (h : Related R A E r r') :
    R (RaisingProgram.finalState r) (RaisingProgram.finalState r') := by
  cases h with
  | returned _ hs => exact hs
  | raised _ hs => exact hs

theorem Related.mono {A' : α → α' → Prop} {E' : ε → ε' → Prop} {r : EStateM.Result ε σ α}
    {r' : EStateM.Result ε' σ' α'} (h : Related R A E r r') (hA : ∀ a a', A a a' → A' a a')
    (hE : ∀ e e', E e e' → E' e e') : Related R A' E' r r' := by
  cases h with
  | returned ha hs => exact .returned (hA _ _ ha) hs
  | raised he hs => exact .raised (hE _ _ he) hs

theorem Coupled.pure {a : α} {a' : α'} (h : A a a') :
    Coupled R A E (pure a : EStateM ε σ α) (pure a' : EStateM ε' σ' α') :=
  fun _ _ hs => .returned h hs

theorem Coupled.throw {e : ε} {e' : ε'} (h : E e e') :
    Coupled R A E (throw e : EStateM ε σ α) (throw e' : EStateM ε' σ' α') :=
  fun _ _ hs => .raised h hs

theorem Coupled.modify {P : PUnit → PUnit → Prop} {f : σ → σ} {f' : σ' → σ'}
    (hP : P .unit .unit) (h : ∀ s s', R s s' → R (f s) (f' s')) :
    Coupled R P E (modify f : EStateM ε σ PUnit) (modify f' : EStateM ε' σ' PUnit) :=
  fun s s' hs => .returned hP (h s s' hs)

/-- What follows a related pair of results, run on each of them. -/
theorem Related.bind {x : EStateM ε σ α} {x' : EStateM ε' σ' α'} {k : α → EStateM ε σ β}
    {k' : α' → EStateM ε' σ' β'} {s : σ} {s' : σ'}
    (hx : Related R A E (x.run s) (x'.run s')) (hk : ∀ a a', A a a' → Coupled R B E (k a) (k' a')) :
    Related R B E ((x >>= k).run s) ((x' >>= k').run s') := by
  rw [EStateM.run_bind, EStateM.run_bind]
  generalize x.run s = r at hx ⊢
  generalize x'.run s' = r' at hx ⊢
  cases hx with
  | returned ha hs => exact hk _ _ ha _ _ hs
  | raised he hs => exact .raised he hs

theorem Coupled.bind {x : EStateM ε σ α} {x' : EStateM ε' σ' α'} {k : α → EStateM ε σ β}
    {k' : α' → EStateM ε' σ' β'} (hx : Coupled R A E x x')
    (hk : ∀ a a', A a a' → Coupled R B E (k a) (k' a')) :
    Coupled R B E (x >>= k) (x' >>= k') := by
  intro s s' hs
  exact (hx s s' hs).bind hk

/-- Exceptions that are handled in related ways. -/
theorem Related.tryCatch {D : ε → ε' → Prop} {x : EStateM ε σ α} {x' : EStateM ε' σ' α'}
    {handler : ε → EStateM ε σ α} {handler' : ε' → EStateM ε' σ' α'} {s : σ} {s' : σ'}
    (hx : Related R A D (x.run s) (x'.run s'))
    (hh : ∀ e e', D e e' → Coupled R A E (handler e) (handler' e')) :
    Related R A E ((tryCatch x handler).run s) ((tryCatch x' handler').run s') := by
  rw [EStateM.run_tryCatch, EStateM.run_tryCatch]
  generalize x.run s = r at hx ⊢
  generalize x'.run s' = r' at hx ⊢
  cases hx with
  | returned ha hs => exact .returned ha hs
  | raised he hs => exact hh _ _ he _ _ hs

theorem Coupled.tryCatch {D : ε → ε' → Prop} {x : EStateM ε σ α} {x' : EStateM ε' σ' α'}
    {handler : ε → EStateM ε σ α} {handler' : ε' → EStateM ε' σ' α'} (hx : Coupled R A D x x')
    (hh : ∀ e e', D e e' → Coupled R A E (handler e) (handler' e')) :
    Coupled R A E (tryCatch x handler) (tryCatch x' handler') := by
  intro s s' hs
  exact (hx s s' hs).tryCatch hh

end Rules

end ExtractApi.PairedRuns
