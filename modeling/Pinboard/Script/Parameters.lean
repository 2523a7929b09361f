import Pinboard.Script.Equality

/-!
# Parameters of functions

The functions that scripts are given take arguments by position, some of them by name too, and some
by name only. What is given is told by the names of the parameters.
-/
namespace Pinboard.Script

structure Parameters where
  /-- The parameters that can be given by position, in order. -/
  places : List String
  /-- The parameters that can be given by name. -/
  named : List String

/-- Arguments under the names of their parameters. -/
abbrev Given := Fields Value

def badCall {α : Type} : Outcome α := raised .badType "unexpected arguments"

/-- Sort arguments by parameters; every parameter is given once at most. -/
def Parameters.bind (p : Parameters) (args : List Value) (named : Fields Value) : Outcome Given :=
  let placed := p.places.zip args
  let fits (entry : String × Value) : Bool :=
    p.named.contains entry.1 && (placed.lookup entry.1).isNone
  if args.length ≤ p.places.length && named.all fits then .ok (placed ++ named) else badCall

namespace Given

/-- An argument that has to be given. -/
def need (given : Given) (name : String) : Outcome Value :=
  match Fields.get? name given with
  | some v => .ok v
  | none => badCall

/-- An argument that counts as nothing if it is not given. -/
def orNone (given : Given) (name : String) : Value := (Fields.get? name given).getD .none

/-- An argument that is used unless it is not given or nothing. -/
def some? (given : Given) (name : String) : Option Value :=
  match given.orNone name with
  | .none => none
  | v => some v

/-- Whether an argument is true; one that is not given counts as said. -/
def flag (given : Given) (name : String) (usual : Bool) : Bool :=
  ((Fields.get? name given).map Value.isTrue).getD usual

end Given
end Pinboard.Script
