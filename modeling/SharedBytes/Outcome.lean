/-!
# How a call ends

A call gives a value or an error. A call that relies on what a peer reports has a third ending: it
is cut short when the report cannot be true, and then gives neither.
-/

namespace SharedBytes

inductive Outcome (ε α : Type) where
  | ok (value : α)
  | error (failure : ε)
  /-- The call was cut short; what it had done until then stays done. -/
  | aborted
deriving DecidableEq, Repr

namespace Outcome

def ofExcept {ε α : Type} : Except ε α → Outcome ε α
  | .ok value => .ok value
  | .error failure => .error failure

def map {ε α β : Type} (f : α → β) : Outcome ε α → Outcome ε β
  | .ok value => .ok (f value)
  | .error failure => .error failure
  | .aborted => .aborted

@[simp] theorem map_id' {ε α : Type} (outcome : Outcome ε α) :
    outcome.map (fun value => value) = outcome := by
  cases outcome <;> rfl

@[simp] theorem map_map {ε α β γ : Type} (f : α → β) (g : β → γ) (outcome : Outcome ε α) :
    (outcome.map f).map g = outcome.map fun value => g (f value) := by
  cases outcome <;> rfl

def mapError {ε δ α : Type} (f : ε → δ) : Outcome ε α → Outcome δ α
  | .ok value => .ok value
  | .error failure => .error (f failure)
  | .aborted => .aborted

end Outcome

end SharedBytes
