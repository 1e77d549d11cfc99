/-!
# Attempts

How a call stands that may have to wait for somebody else, and what is known of steps in a row: if
none has failed, each of them has given something, with which the next one went on, and otherwise
the first that failed gives the error of all.
-/

namespace RLanguageHost

/-- The state of a call: it is done, it has failed, or it waits for something that has not happened
yet. -/
inductive Attempt (ε α : Type) where
  | done (value : α)
  | failed (error : ε)
  | waiting
  deriving Repr, DecidableEq

namespace Attempt

def mapError {ε ε' α : Type} (f : ε → ε') : Attempt ε α → Attempt ε' α
  | .done value => .done value
  | .failed error => .failed (f error)
  | .waiting => .waiting

end Attempt

end RLanguageHost

namespace RLanguageHost.Except

variable {ε ε' α β : Type}

theorem bind_eq_ok_iff {step : Except ε α} {next : α → Except ε β} {b : β} :
    step >>= next = .ok b ↔ ∃ a, step = .ok a ∧ next a = .ok b := by
  cases step with
  | error e => simp [bind, Except.bind]
  | ok a => simp [bind, Except.bind]

theorem bind_eq_error_iff {step : Except ε α} {next : α → Except ε β} {e : ε} :
    step >>= next = .error e ↔ step = .error e ∨ ∃ a, step = .ok a ∧ next a = .error e := by
  cases step with
  | error e => simp [bind, Except.bind]
  | ok a => simp [bind, Except.bind]

theorem mapError_eq_ok_iff {step : Except ε α} {f : ε → ε'} {a : α} :
    step.mapError f = .ok a ↔ step = .ok a := by
  cases step with
  | error e =>
      change Except.error (f e) = .ok a ↔ Except.error e = .ok a
      simp
  | ok b =>
      change Except.ok b = .ok a ↔ Except.ok b = .ok a
      simp

theorem mapError_eq_error_iff {step : Except ε α} {f : ε → ε'} {e' : ε'} :
    step.mapError f = .error e' ↔ ∃ e, step = .error e ∧ f e = e' := by
  cases step with
  | error e =>
      change Except.error (f e) = .error e' ↔ _
      simp
  | ok a =>
      change Except.ok a = .error e' ↔ _
      simp

end RLanguageHost.Except
