import Pinboard.Script.Reader.Basic

/-!
# Signatures

The parameters of a function: those given by position, a slash after the ones that have no other way
to be given, a star with or without a name for further ones, those given by name, and two stars with
a name for further ones of these.
-/
namespace Pinboard.Script

open Parse

/-- What stands between the commas of a signature. -/
inductive Slot where
  | param (parts : List Part) (default : Option Expr)
  | slash
  | star
  | gathered (parts : List Part)
  | gatheredNamed (parts : List Part)

/-- A parameter's name and type. -/
def parameterName (expression : Parse Expr) (typed : Bool) : Parse (List Part) := do
  let line ← line
  let name ← identifier
  let type ← if typed then after ":" expression else pure none
  return .param line name :: type.toList.map .expr

def slot (expression : Parse Expr) (typed : Bool) : Parse Slot := do
  if ← acceptSign "/" then return .slash
  if ← acceptSign "**" then return .gatheredNamed (← parameterName expression typed)
  if ← acceptSign "*" then
    match ← peek with
    | some (.name _) => return .gathered (← parameterName expression typed)
    | _ => return .star
  let parts ← parameterName expression typed
  return .param parts (← after "=" expression)

/-- The parameters at the front with their defaults, and what follows. -/
def Slot.takeParams : List Slot → List (List Part × Option Expr) × List Slot
  | .param parts default :: rest =>
    let (found, rest) := takeParams rest
    ((parts, default) :: found, rest)
  | rest => ([], rest)

/-- Whether every parameter after one with a default has one too. -/
def defaultsLast (params : List (List Part × Option Expr)) : Bool :=
  (params.dropWhile (·.2.isNone)).all (·.2.isSome)

/-- The end of a signature: nothing, or what gathers further named arguments. -/
def Slot.tail? : List Slot → Option (List Part)
  | [] => some []
  | [.gatheredNamed parts] => some parts
  | _ => none

/-- The parts after those given by position. -/
def Slot.afterPositional? : List Slot → Option (List Part)
  | .star :: rest => do
    let (named, rest) := takeParams rest
    if named.isEmpty then none
    else return named.flatMap (·.1) ++ (named.filterMap (·.2)).map .expr ++ (← tail? rest)
  | .gathered parts :: rest => do
    let (named, rest) := takeParams rest
    return parts ++ named.flatMap (·.1) ++ (named.filterMap (·.2)).map .expr ++ (← tail? rest)
  | rest => tail? rest

/-- The parts of a signature in the order in which they are checked; none if the slots fit no
signature. -/
def Slot.signature? (slots : List Slot) : Option (List Part) := do
  let (first, rest) := takeParams slots
  let (more, rest) ←
    match rest with
    | .slash :: rest => if first.isEmpty then none else some (takeParams rest)
    | rest => some ([], rest)
  let positional := first ++ more
  if defaultsLast positional then
    return positional.flatMap (·.1) ++ (← afterPositional? rest)
      ++ (positional.filterMap (·.2)).map .expr
  else none

/-- The parameters up to a closing sign. -/
def signature (expression : Parse Expr) (typed : Bool) (closing : String) (fuel : Nat) :
    Parse (List Part) := do
  match Slot.signature? (← itemsUntil (slot expression typed) closing fuel) with
  | some parts => return parts
  | none => fail

end Pinboard.Script
