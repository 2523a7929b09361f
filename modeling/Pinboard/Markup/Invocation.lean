import Pinboard.Markup.Occurrence

/-!
# Direct calls

A directive can be called with arguments and parameters that were never written as text. The call is
an occurrence whose text is the call rendered in directive notation; its arguments reach the handler
as they were given, also where the text would split them elsewhere.
-/
namespace Pinboard.Markup

def openMarker : String := "\x7b\x7b"

def closeMarker : String := "\x7d\x7d"

/-- A parameter value between double quotes, or between single ones if it holds a double one. -/
def renderValue (value : String) : String :=
  if value.toList.contains '"' then "'" ++ value ++ "'" else "\"" ++ value ++ "\""

def renderParams (params : Fields String) : String :=
  String.join (params.map fun (key, value) => " " ++ key ++ "=" ++ renderValue value)

/-- A call in directive notation. -/
def render (name : String) (args : List String) (params : Fields String) : String :=
  let header := name ++ renderParams params
  if args.isEmpty then openMarker ++ header ++ closeMarker
  else openMarker ++ header ++ ":" ++ Text.join ":" args ++ closeMarker

namespace Occurrence

def ofCall (name : String) (args : List String) (params : Fields String) : Occurrence :=
  let text := render name args params
  { text
    start := 0
    stop := text.length
    name
    params
    flags := []
    body := if args.isEmpty then none else some (Text.join ":" args)
    callArgs := some args }

/-- The body as at most `count` arguments, the last one absorbing the rest; none without a body. -/
def arguments (m : Occurrence) (count : Nat) : List String :=
  match m.body, m.callArgs with
  | none, _ => []
  | some body, none => splitArguments body count
  | some body, some args =>
    if count ≤ 1 then [body]
    else if args.length ≤ count then args
    else args.take (count - 1) ++ [Text.join ":" (args.drop (count - 1))]

/-- The argument at an index, counted from the end if negative, or the default past the end. There
is none before the first. -/
def argument? (m : Occurrence) (index : Int) (count : Nat) (default : String) : Option String :=
  let args := m.arguments count
  if index < 0 then
    if index + args.length < 0 then none else args[(index + args.length).toNat]?
  else some (args[index.toNat]?.getD default)

def param (m : Occurrence) (key default : String) : String := (m.params.get? key).getD default

/-- A parameter, empty if it is absent. -/
def paramText (m : Occurrence) (key : String) : String := m.param key ""

/-- The body, empty if there is none. -/
def bodyText (m : Occurrence) : String := m.body.getD ""

end Occurrence
end Pinboard.Markup
