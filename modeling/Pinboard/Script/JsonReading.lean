import Pinboard.Json.Reader
import Pinboard.Script.Collection
import Pinboard.Script.JsonWriting

/-!
# JSON text as values of scripts

A text is read as a value. Arguments choose what is called on numbers and objects as they are read,
and whether texts may hold control characters.
-/
namespace Pinboard.Script

/-- What is called on the parts of a text. -/
structure JsonHooks where
  object : Option Value
  /-- Called on the entries of an object, in place of a mapping. -/
  pairs : Option Value
  whole : Option Value
  real : Option Value
  /-- Called on the words for reals that are infinite or no number. -/
  word : Option Value

def jsonHookNames : List String :=
  ["object_hook", "object_pairs_hook", "parse_float", "parse_int", "parse_constant"]

/-- An argument that is used if it is true. -/
def Given.ifTrue? (given : Given) (name : String) : Option Value :=
  (Fields.get? name given).filter Value.isTrue

def JsonHooks.ofGiven (given : Given) : JsonHooks where
  object := given.some? "object_hook"
  pairs := given.some? "object_pairs_hook"
  whole := given.ifTrue? "parse_int"
  real := given.ifTrue? "parse_float"
  word := given.ifTrue? "parse_constant"

/-- Control characters inside texts as escapes; `inside` says that a text is open. -/
def escapeControls (inside : Bool) : List Char → List Char
  | [] => []
  | '\\' :: c :: cs =>
    if inside then '\\' :: c :: escapeControls true cs else '\\' :: escapeControls false (c :: cs)
  | c :: cs =>
    if c = '"' then c :: escapeControls (!inside) cs
    else if inside && c.toNat < 0x20 then Json.unitEscape c.toNat ++ escapeControls true cs
    else c :: escapeControls inside cs
termination_by cs => cs.length

def badJson {α : Type} : Outcome α := raised .badJson "Expecting value"

/-- What was read, or the error that it could not be. -/
def jsonOutcome {α : Type} : Except Json.ReadError α → Outcome α
  | .ok v => .ok v
  | .error .malformed => badJson
  | .error (.tooManyDigits _) => Value.tooManyDigits

/-- Characters that numbers are written with. -/
def isNumeric (c : Char) : Bool := Json.isAsciiDigit c || "+-.eE".contains c

/-- What stands in front of the rest of a text, of whose characters all are numeric. -/
def numericBefore (cs rest : List Char) : List Char :=
  let run := cs.takeWhile isNumeric
  run.take (run.length - (rest.takeWhile isNumeric).length)

/-- The text of a number at the front, and whether it is a real one. -/
def numberText? (cs : List Char) : Option (String × Bool × List Char) :=
  let body := if cs.head? = some '-' then cs.drop 1 else cs
  let (whole, rest) := Json.splitWhole body
  let (fraction, rest) := Json.splitFraction rest
  let (power, rest) := Json.splitExponent rest
  if whole.isEmpty then none
  else
    some (String.ofList (numericBefore cs rest), !fraction.isEmpty || power.isSome, rest)

/-- The word for a real that is infinite or no number at the front. -/
def realWord? (cs : List Char) : Option (String × List Char) :=
  ["NaN", "Infinity", "-Infinity"].findSome? fun w => (Json.word? w cs).map fun rest => (w, rest)

/-- What a hook makes of a text at the front; without a hook it is read as JSON has it. -/
def readPart (hook : Hook) (f : Option Value) (text : String) (cs rest : List Char) :
    Op (Value × List Char) :=
  match f with
  | some f => return (← hook f (.text text), rest)
  | none => (jsonOutcome (Json.readScalar cs)).map fun (v, rest) => (Value.ofJson v, rest)

/-- A value that is no container and no text. -/
def readPlain (hook : Hook) (h : JsonHooks) (cs : List Char) : Op (Value × List Char) :=
  match realWord? cs, numberText? cs with
  | some (word, rest), _ => readPart hook h.word word cs rest
  | none, some (text, isReal, rest) =>
    readPart hook (if isReal then h.real else h.whole) text cs rest
  | none, none => (jsonOutcome (Json.readScalar cs)).map fun (v, rest) => (Value.ofJson v, rest)

/-- The value that the entries of an object are. -/
def readObject (hook : Hook) (h : JsonHooks) (entries : List (String × Value)) : Op Value :=
  let pairs := entries.map fun (k, v) => (Value.text k, v)
  match h.pairs, h.object with
  | some f, _ => hook f (.list (pairs.map fun (k, v) => .tuple [k, v]))
  | none, some f => hook f (.mapping (Value.merged pairs))
  | none, none => return .mapping (Value.merged pairs)

mutual

/-- One value; the fuel bounds the number of values and entries inside it. -/
def readHooked (hook : Hook) (h : JsonHooks) : Nat → List Char → Op (Value × List Char)
  | 0, _ => badJson (α := Value × List Char)
  | _ + 1, '"' :: cs => (jsonOutcome (Json.readString cs)).map fun (s, rest) => (.text s, rest)
  | fuel + 1, '[' :: cs =>
    match Json.skipGap cs with
    | ']' :: rest => return (.list [], rest)
    | cs => do
      let (items, rest) ← readItems hook h fuel cs
      return (.list items, rest)
  | fuel + 1, '\x7b' :: cs =>
    match Json.skipGap cs with
    | '\x7d' :: rest => return (← readObject hook h [], rest)
    | cs => do
      let (entries, rest) ← readEntries hook h fuel cs
      return (← readObject hook h entries, rest)
  | _ + 1, cs => readPlain hook h cs

/-- The rest of a list that still holds an item. -/
def readItems (hook : Hook) (h : JsonHooks) : Nat → List Char → Op (List Value × List Char)
  | 0, _ => badJson (α := List Value × List Char)
  | fuel + 1, cs => do
    let (v, rest) ← readHooked hook h fuel cs
    match Json.skipGap rest with
    | ']' :: rest => return ([v], rest)
    | ',' :: rest =>
      let (more, rest) ← readItems hook h fuel (Json.skipGap rest)
      return (v :: more, rest)
    | _ => badJson (α := List Value × List Char)

/-- The rest of an object that still holds an entry. -/
def readEntries (hook : Hook) (h : JsonHooks) :
    Nat → List Char → Op (List (String × Value) × List Char)
  | 0, _ => badJson (α := List (String × Value) × List Char)
  | fuel + 1, '"' :: cs => do
    let (key, rest) ← jsonOutcome (Json.readString cs)
    match Json.skipGap rest with
    | ':' :: rest =>
      let (v, rest) ← readHooked hook h fuel (Json.skipGap rest)
      match Json.skipGap rest with
      | '\x7d' :: rest => return ([(key, v)], rest)
      | ',' :: rest =>
        let (more, rest) ← readEntries hook h fuel (Json.skipGap rest)
        return ((key, v) :: more, rest)
      | _ => badJson (α := List (String × Value) × List Char)
    | _ => badJson (α := List (String × Value) × List Char)
  | _ + 1, _ => badJson (α := List (String × Value) × List Char)

end

/-- The value of a text that holds one value and gaps around it. -/
def readJson (hook : Hook) (text : String) (given : Given) : Op Value := do
  let strict := given.flag "strict" true
  let cs := Json.skipGap (if strict then text.toList else escapeControls false text.toList)
  let (v, rest) ← readHooked hook (JsonHooks.ofGiven given) (cs.length + 1) cs
  if (Json.skipGap rest).isEmpty then return v else badJson (α := Value)

end Pinboard.Script
