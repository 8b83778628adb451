import Mathlib.Tactic

/-!
# Chains of checks

A validator is a chain of steps that either go on or end with the first error. It returns
a result exactly when every step does.
-/

namespace Checks

variable {ε α β : Type}

/-- One check: its error, unless the condition holds. -/
def check (condition : Bool) (err : ε) : Except ε Unit :=
  if condition then .ok () else .error err

@[simp] theorem check_eq_ok {condition : Bool} {err : ε} {u : Unit} :
    check condition err = .ok u ↔ condition = true := by
  unfold check
  cases condition <;> simp

theorem bind_eq_ok {step : Except ε α} {rest : α → Except ε β} {b : β} :
    (step >>= rest) = .ok b ↔ ∃ a, step = .ok a ∧ rest a = .ok b := by
  cases step with
  | error err =>
    constructor
    · intro h
      cases h
    · rintro ⟨a, h, -⟩
      cases h
  | ok a =>
    constructor
    · intro h
      exact ⟨a, rfl, h⟩
    · rintro ⟨a', ha, h⟩
      cases ha
      exact h

/-- A check and what follows it. -/
theorem check_bind_eq_ok {condition : Bool} {err : ε} {rest : Except ε β} {b : β} :
    (check condition err >>= fun _ => rest) = .ok b ↔ condition = true ∧ rest = .ok b := by
  rw [bind_eq_ok]
  simp

/-- A value that has to be there. -/
def expect (value : Option α) (err : ε) : Except ε α :=
  match value with
  | some a => .ok a
  | none => .error err

theorem expect_bind_eq_ok {value : Option α} {err : ε} {rest : α → Except ε β} {b : β} :
    (expect value err >>= rest) = .ok b ↔ ∃ a, value = some a ∧ rest a = .ok b := by
  rw [bind_eq_ok]
  cases value <;> simp [expect]

end Checks
