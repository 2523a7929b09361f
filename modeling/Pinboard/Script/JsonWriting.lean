import Pinboard.Json.Printer
import Pinboard.Script.Arithmetic
import Pinboard.Script.Parameters
import Pinboard.Script.Shown
import Pinboard.Script.Sorting

/-!
# Values of scripts as JSON text

Values are written on one line, or each member on a line of its own under an indentation. Arguments
choose the signs between members, whether letters outside ASCII are escaped, whether keys are
sorted, and what is done with keys and values that JSON does not know.
-/
namespace Pinboard.Script

/-- Calls a value with one argument. -/
abbrev Hook := Value → Value → Op Value

structure JsonLayout where
  /-- Leave out entries whose keys JSON does not know. -/
  skipKeys : Bool
  ascii : Bool
  /-- Write reals that are infinite or no number. -/
  allReals : Bool
  sortKeys : Bool
  /-- The text that each level is indented by. -/
  indent : Option String
  itemSeparator : Value
  keySeparator : Value
  /-- What is called on values that JSON does not know. -/
  fallback : Option Value

def jsonOptions : List String :=
  ["skipkeys", "ensure_ascii", "check_circular", "allow_nan", "cls", "indent", "separators",
    "default", "sort_keys"]

/-! ## Arguments -/

/-- The two separators, between items and after keys. -/
def separatorsOf (given : Given) : Outcome (Value × Value) :=
  match given.some? "separators" with
  | none => .ok (.text (if (given.some? "indent").isSome then "," else ", "), .text ": ")
  | some v => do
    match ← v.members with
    | [item, key] => return (item, key)
    | _ => raised .badValue "not enough values to unpack"

/-- The text that a level is indented by: a text, or a number of blanks. -/
def indentOf (given : Given) : Op (Option String) :=
  match given.some? "indent" with
  | none => return none
  | some (.text s) => return some s
  | some v => do
    match ← Value.times (.text " ") v with
    | .text s => return some s
    | _ => return none

def textOf (v : Value) : Outcome String :=
  match v with
  | .text s => .ok s
  | _ => raised .badType "a separator must be a text"

/-- The layout that arguments ask for. On one line the separators have to be texts. -/
def JsonLayout.ofGiven (given : Given) (separators : Value × Value) : Op JsonLayout := do
  let indent ← indentOf given
  if indent.isNone then
    let _ ← textOf separators.2
    let _ ← textOf separators.1
  return {
    skipKeys := given.flag "skipkeys" false
    ascii := given.flag "ensure_ascii" true
    allReals := given.flag "allow_nan" true
    sortKeys := given.flag "sort_keys" false
    indent
    itemSeparator := separators.1
    keySeparator := separators.2
    fallback := given.some? "default" }

/-! ## Texts and numbers -/

/-- A character inside a text where letters outside ASCII stand for themselves. -/
def plainChar (c : Char) : List Char := if c.toNat < 0x7F then Json.escapedChar c else [c]

def jsonText (ascii : Bool) (s : String) : String :=
  if ascii then String.ofList (Json.stringChars s)
  else String.ofList ('"' :: s.toList.flatMap plainChar ++ ['"'])

def jsonWhole (i : Int) : Outcome String := (Value.whole i).displayed

def jsonReal (l : JsonLayout) (x : Number.Binary64) : Outcome String :=
  if x.isFinite || l.allReals then .ok (String.ofList (Json.realChars x))
  else raised .badValue "Out of range float values are not JSON compliant"

/-- The text of a key; none for one that is left out. -/
def jsonKey (l : JsonLayout) (key : Value) : Outcome (Option String) :=
  match key with
  | .text s => return s
  | .real x => some <$> jsonReal l x
  | .notANumber _ => some <$> jsonReal l .nan
  | .truth b => return if b then "true" else "false"
  | .none => return "null"
  | .whole i => some <$> jsonWhole i
  | _ =>
    if l.skipKeys then return none
    else raised .badType "keys must be str, int, float, bool or None"

/-! ## Collections -/

/-- A line end with the indentation of a level, or nothing on one line. -/
def JsonLayout.newLine (l : JsonLayout) (level : Nat) : String :=
  match l.indent with
  | none => ""
  | some indent => "\n" ++ Value.repeatText indent level

/-- Members between brackets, at a level. -/
def JsonLayout.enclose (l : JsonLayout) (level : Nat) (opening closing : String)
    (parts : List String) : Outcome String := do
  let separator ← textOf l.itemSeparator
  let inner := l.newLine (level + 1)
  return opening ++ inner ++ Text.join (separator ++ inner) parts ++ l.newLine level ++ closing

/-- The entries of a mapping in the order in which they are written. -/
def JsonLayout.arrange (l : JsonLayout) (entries : List (Value × Value)) :
    Outcome (List (Value × Value)) := do
  if l.sortKeys then
    let sorted ← sortedBy false (entries.map fun (k, v) => ⟨.tuple [k, v], .tuple [k, v]⟩)
    return sorted.filterMap fun
      | .tuple [k, v] => some (k, v)
      | _ => none
  else return entries

/-- How deep values may be nested. -/
def jsonDepth : Nat := 900

/-- A value at a level. The fuel bounds the depth of values and of what stands in for them. -/
def writeAt (hook : Hook) (l : JsonLayout) : Nat → Nat → Value → Op String
  | 0, _, _ => raised (α := String) .recursion "maximum recursion depth exceeded"
  | fuel + 1, level, v => do
    match v with
    | .none => return "null"
    | .truth b => return if b then "true" else "false"
    | .whole i => jsonWhole i
    | .real x => jsonReal l x
    | .notANumber _ => jsonReal l .nan
    | .text s => return jsonText l.ascii s
    | .list items => array fuel level items
    | .tuple items => array fuel level items
    | .mapping entries =>
      if entries.isEmpty then return "\x7b\x7d"
      else
        let separator ← textOf l.keySeparator
        let parts ← (← l.arrange entries).mapM fun (k, v) => do
          match ← jsonKey l k with
          | none => return none
          | some key =>
            return some (jsonText l.ascii key ++ separator ++ (← writeAt hook l fuel (level + 1) v))
        l.enclose level "\x7b" "\x7d" (parts.filterMap id)
    | v =>
      match l.fallback with
      | none => raised (α := String) .badType "Object is not JSON serializable"
      | some f => do writeAt hook l fuel level (← hook f v)
where
  array (fuel level : Nat) (items : List Value) : Op String := do
    if items.isEmpty then return "[]"
    else l.enclose level "[" "]" (← items.mapM (writeAt hook l fuel (level + 1)))

/-- The text of a value under arguments. A text alone needs no layout. -/
def writeJson (hook : Hook) (v : Value) (given : Given) : Op Value := do
  let separators ← separatorsOf given
  match v with
  | .text s => return .text (jsonText (given.flag "ensure_ascii" true) s)
  | v => do
    let l ← JsonLayout.ofGiven given separators
    return .text (← writeAt hook l jsonDepth 0 v)

end Pinboard.Script
