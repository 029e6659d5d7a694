import Mathlib.Tactic.Common

/-!
# Sequences of checks

A check of the domain layer is a conditional error, and a function is a sequence of checks and calls
that ends in a value. These lemmas take such a sequence apart once it is known to have succeeded, or
to have failed with a certain error.
-/

set_option autoImplicit false

namespace Pactline

variable {ε α β : Type}

@[simp] theorem bind_eq_ok {x : Except ε α} {f : α → Except ε β} {b : β} :
    (x >>= f) = .ok b ↔ ∃ a, x = .ok a ∧ f a = .ok b := by
  cases x <;> simp [bind, Except.bind]

@[simp] theorem pure_eq_ok {a b : α} : (pure a : Except ε α) = .ok b ↔ a = b := by
  simp [pure, Except.pure]

@[simp] theorem throw_eq_error (e : ε) : (throw e : Except ε α) = .error e := rfl

@[simp] theorem error_bind (e : ε) (f : α → Except ε β) : (Except.error e >>= f) = .error e := rfl

/-- A check that is written as a conditional error. -/
@[simp] theorem guard_eq_ok {c : Prop} [Decidable c] {e : ε} {x : Except ε α} {a : α} :
    (if c then .error e else x) = .ok a ↔ ¬ c ∧ x = .ok a := by
  by_cases hc : c <;> simp [hc]

/-- The rules above as one argument of `simp`. -/
theorem ok_rules : type_of% (And.intro @bind_eq_ok <| And.intro @pure_eq_ok <|
    And.intro @throw_eq_error <| And.intro @error_bind @guard_eq_ok) :=
  ⟨bind_eq_ok, pure_eq_ok, throw_eq_error, error_bind, guard_eq_ok⟩

theorem bind_eq_error {x : Except ε α} {f : α → Except ε β} {e : ε} :
    (x >>= f) = .error e ↔ x = .error e ∨ ∃ a, x = .ok a ∧ f a = .error e := by
  cases x <;> simp [bind, Except.bind]

theorem pure_eq_error {a : α} {e : ε} : (pure a : Except ε α) = .error e ↔ False := by
  simp [pure, Except.pure]

theorem guard_eq_error {c : Prop} [Decidable c] {e e' : ε} {x : Except ε α} :
    (if c then .error e else x) = .error e' ↔ (c ∧ e = e') ∨ (¬ c ∧ x = .error e') := by
  by_cases hc : c <;> simp [hc]

end Pactline
