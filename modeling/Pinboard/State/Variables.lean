import Pinboard.State.Stored

/-!
# Persistent variables

Variables that outlive a resolution, as an ordered list. Setting a variable moves it to the end; its
first value is kept as the value that a reset goes back to, until it is deleted.
-/
namespace Pinboard

open Record

structure Variable where
  name : String
  value : String
  initial : String
  deriving DecidableEq, Repr

namespace Variable

def toJson (v : Variable) : Json :=
  .obj [("name", .str v.name), ("value", .str v.value), ("initial_value", .str v.initial)]

def read : Reader Variable := recordOf fun data =>
  Variable.mk <$> required "name" text data <*> required "value" text data
    <*> required "initial_value" text data

end Variable

namespace Variables

variable {σ : Type}

def find? (name : String) (vars : List Variable) : Option Variable :=
  vars.find? fun v => v.name == name

def without (name : String) (vars : List Variable) : List Variable :=
  vars.filter fun v => v.name != name

/-- Move a variable to the end with a new value. -/
def put (name value : String) (vars : List Variable) : List Variable :=
  let initial := ((find? name vars).map (·.initial)).getD value
  without name vars ++ [⟨name, value, initial⟩]

theorem mem_without {name : String} {vars : List Variable} {v : Variable} :
    v ∈ without name vars ↔ v ∈ vars ∧ v.name ≠ name := by
  simp [without]

/-- Put the first variable of a name back to its initial value, where it stands. -/
def restore (name : String) : List Variable → List Variable
  | [] => []
  | v :: vs =>
    if v.name = name then { v with value := v.initial } :: vs else v :: restore name vs

@[simp] theorem length_restore (name : String) (vars : List Variable) :
    (restore name vars).length = vars.length := by
  induction vars with
  | nil => rfl
  | cons v vs ih => simp only [restore]; split <;> simp [ih]

def load (storage : KeyValueStore σ) : Action σ (List Variable) := do
  let items ← Stored.load storage Stored.variablesKey
  items.mapM fun item => Action.ofChecked "PersistentVariable" (Variable.read item)

def save (storage : KeyValueStore σ) (vars : List Variable) : Action σ Unit :=
  Stored.save storage Stored.variablesKey (vars.map Variable.toJson)

def get? (storage : KeyValueStore σ) (name : String) : Action σ (Option String) := do
  let vars ← load storage
  pure ((find? name vars).map (·.value))

def set (storage : KeyValueStore σ) (name value : String) : Action σ Unit := do
  save storage (put name value (← load storage))

/-- Whether the variable was there; nothing is written if it was not. -/
def reset (storage : KeyValueStore σ) (name : String) : Action σ Bool := do
  let vars ← load storage
  if (find? name vars).isSome then
    save storage (restore name vars)
    pure true
  else pure false

/-- Whether the variable was there; nothing is written if it was not. -/
def delete (storage : KeyValueStore σ) (name : String) : Action σ Bool := do
  let vars ← load storage
  if (find? name vars).isSome then
    save storage (without name vars)
    pure true
  else pure false

end Variables
end Pinboard
