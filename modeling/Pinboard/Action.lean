import Pinboard.Fault

/-!
# Actions

An action on a state `σ` ends with a value or a fault. What it did to the state before a fault stays
done.
-/
namespace Pinboard

/-- An action on `σ` that may end in a fault. The state survives the fault. -/
abbrev Action (σ : Type) (α : Type) := ExceptT Fault (StateM σ) α

namespace Action

variable {σ α : Type}

/-- Run an action that cannot fault. -/
def total (x : StateM σ α) : Action σ α := ExceptT.lift x

/-- The outcome of an action as a value. -/
def outcome (x : Action σ α) : StateM σ (Except Fault α) := x.run

/-- The value of an action, or a default if it faults. -/
def orElse (x : Action σ α) (default : α) : StateM σ α := fun s =>
  match x.run s with
  | (.ok a, s') => (a, s')
  | (.error _, s') => (default, s')

/-- Fault on a missing value. -/
def demand (fault : Fault) : Option α → Action σ α
  | some a => pure a
  | none => throw fault

/-- Fault with a cause, or go on with a value. -/
def ofExcept : Except Fault α → Action σ α
  | .ok a => pure a
  | .error fault => throw fault

/-- Fault on refused data of a record of a kind. -/
def ofChecked (record : String) : Record.Checked α → Action σ α
  | .ok a => pure a
  | .failed faults => throw (.invalid record faults)

end Action
end Pinboard
