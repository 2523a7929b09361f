import Pinboard.Markup.Arguments
import Pinboard.Markup.Header

/-!
# Occurrences of directives

An occurrence is an opening marker, a spelling, a header and the closing marker that balances the
opening one. Markers are counted from left to right, two characters at a time, so the first closing
marker that is not balanced inside ends the occurrence.
-/
namespace Pinboard.Markup

/-- One occurrence of a directive in a text, or a direct call of it. -/
structure Occurrence where
  text : String
  /-- Where the opening marker starts. -/
  start : Nat
  /-- Where the closing marker ends. -/
  stop : Nat
  /-- The spelling found. -/
  name : String
  params : Fields String
  flags : List String
  body : Option String
  /-- The arguments of a direct call, which are taken as given and not split. -/
  callArgs : Option (List String)
  deriving DecidableEq, Repr

def hasMarker : List Char → Bool
  | '\x7b' :: '\x7b' :: _ => true
  | _ :: cs => hasMarker cs
  | [] => false

/-- The number of characters before the closing marker that brings the depth to zero. -/
def closeAt? (depth : Nat) : List Char → Option Nat
  | '\x7b' :: '\x7b' :: rest => (closeAt? (depth + 1) rest).map (· + 2)
  | '\x7d' :: '\x7d' :: rest =>
    if depth ≤ 1 then some 0 else (closeAt? (depth - 1) rest).map (· + 2)
  | _ :: rest => (closeAt? depth rest).map (· + 1)
  | [] => none

/-- Whether a spelling may end here: before a blank, a colon or a closing marker. -/
def isBoundary : List Char → Bool
  | '\x7d' :: '\x7d' :: _ => true
  | c :: _ => Text.isBlank c || c == ':'
  | [] => false

def spellingFits (rest : List Char) (spelling : String) : Bool :=
  spelling.toList.isPrefixOf rest && isBoundary (rest.drop spelling.length)

/-- The longest of two spellings, the first of equally long ones. -/
def longer (s : Option String) (t : String) : Option String :=
  match s with
  | none => some t
  | some s => if s.length < t.length then some t else some s

/-- The longest spelling at the front that ends at a boundary. -/
def spellingAt? (spellings : List String) (rest : List Char) : Option String :=
  (spellings.filter (spellingFits rest)).foldl longer none

/-- An occurrence as read from its opening marker on. -/
structure Opened where
  name : String
  header : Header
  /-- The number of characters between the two markers. -/
  inside : Nat
  deriving DecidableEq, Repr

/-- The occurrence that starts at the front of `cs` and ends within its first `limit` characters. -/
def openedAt? (spellings : List String) (limit : Nat) : List Char → Option Opened
  | '\x7b' :: '\x7b' :: rest =>
    match spellingAt? spellings rest, closeAt? 1 (rest.take (limit - 2)) with
    | some name, some inside =>
      (Header.read? ((rest.take inside).drop name.length)).map fun header =>
        { name, header, inside }
    | _, _ => none
  | _ => none

def Opened.toOccurrence (o : Opened) (start : Nat) (cs : List Char) : Occurrence where
  text := String.ofList (cs.take (o.inside + 4))
  start := start
  stop := start + o.inside + 4
  name := o.name
  params := o.header.params
  flags := o.header.flags
  body := o.header.body
  callArgs := none

/-- The leftmost occurrence within the first `limit` characters of a text, whose first character
stands at `start`. With `innermost`, an occurrence gives way to the leftmost one between its
markers, and so on inwards. -/
def scan (spellings : List String) (innermost : Bool) (start limit : Nat) :
    List Char → Option Occurrence
  | c :: d :: rest =>
    if limit < 4 then none
    else match openedAt? spellings limit (c :: d :: rest) with
      | some o =>
        match (if innermost then scan spellings innermost (start + 2) o.inside rest else none) with
        | some nested => some nested
        | none => some (o.toOccurrence start (c :: d :: rest))
      | none => scan spellings innermost (start + 1) (limit - 1) (d :: rest)
  | _ => none

/-- The first occurrence of a spelling that starts at or after `start`. -/
def find? (spellings : List String) (innermost : Bool) (start : Nat) (text : List Char) :
    Option Occurrence :=
  scan spellings innermost start (text.length - start) (text.drop start)

/-- A search position given from the front or, if negative, from the end. -/
def positionOf (start : Int) (length : Nat) : Nat :=
  if start < 0 then (start + length).toNat else start.toNat

/-- Every occurrence, each search starting where the one before ended. -/
def findAllFrom (spellings : List String) (innermost : Bool) (text : List Char) :
    Nat → Nat → List Occurrence
  | 0, _ => []
  | fuel + 1, start =>
    match find? spellings innermost start text with
    | none => []
    | some m => m :: findAllFrom spellings innermost text fuel m.stop

def findAll (spellings : List String) (innermost : Bool) (text : List Char) : List Occurrence :=
  findAllFrom spellings innermost text (text.length + 1) 0

end Pinboard.Markup
