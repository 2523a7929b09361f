import Pinboard.Script.Collection
import Pinboard.Script.Parameters
import Pinboard.Text.Basic
import Pinboard.Text.Uppercase

/-!
# Methods of texts

Upper case, cutting at a separator or at blanks, and joining.
-/
namespace Pinboard.Script

/-- The parts of a text between separators, cut at most a number of times. -/
def cutText (separator : List Char) : Nat → List Char → List (List Char)
  | 0, cs => [cs]
  | cuts + 1, cs =>
    match Text.cutAt separator cs with
    | some (part, rest) => part :: cutText separator cuts rest
    | none => [cs]

/-- The words of a text; after a number of words the rest is one. -/
def words : Nat → List Char → List (List Char)
  | 0, cs =>
    let rest := cs.dropWhile Text.isBlank
    if rest.isEmpty then [] else [rest]
  | cuts + 1, cs =>
    let rest := cs.dropWhile Text.isBlank
    if rest.isEmpty then []
    else rest.takeWhile (!Text.isBlank ·) :: words cuts (rest.dropWhile (!Text.isBlank ·))

/-- How often a text of a length is cut at most; a negative number sets no limit. -/
def cutLimit (length : Nat) (limit : Int) : Nat :=
  if limit < 0 then length + 1 else min limit.toNat (length + 1)

/-- The parts of a text as a list. -/
def partList (parts : List (List Char)) : Value :=
  .list (parts.map fun part => .text (String.ofList part))

/-- The number of cuts that an argument allows. -/
def cutsOf (limit : Value) : Outcome Int :=
  match limit.whole? with
  | some n =>
    if isIndex n then .ok n
    else raised .overflow "cannot fit 'int' into an index-sized integer"
  | none => raised .badType "object cannot be interpreted as an integer"

def splitText (owner : String) (given : Given) : Outcome Value := do
  let limit ← cutsOf ((Fields.get? "maxsplit" given).getD (.whole (-1)))
  let cs := owner.toList
  let cuts := cutLimit cs.length limit
  match given.orNone "sep" with
  | .none => return partList (words cuts cs)
  | .text t =>
    if t.isEmpty then raised .badValue "empty separator"
    else return partList (cutText t.toList cuts cs)
  | _ => raised .badType "must be str or None"

/-- The texts among which a text is put. -/
def texts : List Value → Outcome (List String)
  | [] => .ok []
  | .text s :: rest => (texts rest).map (s :: ·)
  | _ => raised .badType "sequence item: expected str instance"

def Method.parameters : Method → Parameters
  | .upper => ⟨[], []⟩
  | .split => ⟨["sep", "maxsplit"], ["sep", "maxsplit"]⟩
  | .join => ⟨["iterable"], []⟩

def Method.apply (m : Method) (owner : String) (args : List Value) (named : Fields Value) :
    Outcome Value := do
  let given ← m.parameters.bind args named
  match m with
  | .upper => return .text (Text.upper owner)
  | .split => splitText owner given
  | .join => return .text (Text.join owner (← texts (← (← given.need "iterable").members)))

/-- A method with the text as its first argument. -/
def Method.applyFirst (m : Method) (args : List Value) (named : Fields Value) : Outcome Value :=
  match args with
  | .text owner :: rest => m.apply owner rest named
  | _ => badCall

/-- An attribute of a value: a method of a text or of texts, or what an error was raised with. -/
def Value.attributeOf (base : Value) (name : String) : Outcome Value :=
  match base, Method.ofName? name with
  | .text s, some m => .ok (.method s m)
  | .function .text, some m => .ok (.function (.method m))
  | .error _ _ args, _ =>
    if name = "args" then .ok (.tuple args)
    else raised .unknownAttribute ("object has no attribute '" ++ name ++ "'")
  | _, _ => raised .unknownAttribute ("object has no attribute '" ++ name ++ "'")

end Pinboard.Script
