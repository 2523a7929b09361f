import Pinboard.Number.Places
import Pinboard.Script.Arithmetic
import Pinboard.Script.Shown

/-!
# Values put into texts

A text may hold places for values: a percent sign, a key in parentheses, flags, a width, a number of
places, and a letter that says how the value is written. The values come in order from a tuple, or
singly, or under the keys from a mapping.
-/
namespace Pinboard.Script

open Number

/-- A place for a value in a text. -/
structure Placeholder where
  left : Bool
  signed : Bool
  blank : Bool
  alternate : Bool
  zeros : Bool
  width : Option Nat
  places : Option Nat
  letter : Char

/-- The values that are still to be put in. -/
structure Supply where
  rest : List Value
  /-- What keys are looked up in. -/
  entries : Option Value

/-- The values that come after a percent sign. A list is one value, but can be asked for keys. -/
def Supply.ofValue : Value → Supply
  | .tuple items => ⟨items, none⟩
  | .list items => ⟨[.list items], some (.list items)⟩
  | .mapping entries => ⟨[.mapping entries], some (.mapping entries)⟩
  | v => ⟨[v], none⟩

def Supply.next (s : Supply) : Outcome (Value × Supply) :=
  match s.rest with
  | v :: rest => .ok (v, { s with rest })
  | [] => raised .badType "not enough arguments for format string"

/-! ## Reading a placeholder -/

/-- The key up to its closing parenthesis, parentheses inside it being balanced. -/
def takeKey? : Nat → List Char → Option (List Char × List Char)
  | _, [] => none
  | depth, c :: cs =>
    if c = ')' ∧ depth = 0 then some ([], cs)
    else
      let depth := if c = '(' then depth + 1 else if c = ')' then depth - 1 else depth
      (takeKey? depth cs).map fun (key, rest) => (c :: key, rest)

/-- The value under a key, if a key is given, is the only one to be put in next. -/
def takeKey (s : Supply) (cs : List Char) : Outcome (Supply × List Char) :=
  match cs, s.entries with
  | '(' :: _, none => raised .badType "format requires a mapping"
  | '(' :: cs, some entries =>
    match takeKey? 0 cs with
    | none => raised .badValue "incomplete format key"
    | some (key, rest) => do
      let v ← Value.item entries (.text (String.ofList key))
      return ({ s with rest := [v] }, rest)
  | cs, _ => .ok (s, cs)

def takeFlags (p : Placeholder) : List Char → Placeholder × List Char
  | '-' :: cs => takeFlags { p with left := true } cs
  | '+' :: cs => takeFlags { p with signed := true } cs
  | ' ' :: cs => takeFlags { p with blank := true } cs
  | '#' :: cs => takeFlags { p with alternate := true } cs
  | '0' :: cs => takeFlags { p with zeros := true } cs
  | cs => (p, cs)

/-- One more than the greatest number of places. -/
def placesLimit : Int := 2 ^ 31

/-- A whole number that a star stands for; it has to be in range. -/
def starNumber (limit : Int) (v : Value) : Outcome Int :=
  match v.whole? with
  | none => raised .badType "* wants int"
  | some i =>
    if -limit ≤ i ∧ i < limit then .ok i
    else raised .overflow "too large for a machine word"

/-- The digits at the front as a number; too large a number is an error. -/
def takeCount (limit : Int) (cs : List Char) : Outcome (Nat × List Char) :=
  let ds := cs.takeWhile Json.isAsciiDigit
  let n := ofDigitValues (Json.digitValues ds)
  if n < limit then .ok (n, cs.drop ds.length) else raised .badValue "width too big"

/-- The width: digits, or a star for one of the values. One below zero asks for filling on the
right. -/
def takeWidth (p : Placeholder) (s : Supply) (cs : List Char) :
    Outcome (Placeholder × Supply × List Char) :=
  match cs with
  | '*' :: cs => do
    let (v, s) ← s.next
    let i ← starNumber indexLimit v
    return ({ p with width := some i.natAbs, left := p.left || i < 0 }, s, cs)
  | c :: _ =>
    if Json.isAsciiDigit c then do
      let (n, rest) ← takeCount indexLimit cs
      return ({ p with width := some n }, s, rest)
    else .ok (p, s, cs)
  | [] => .ok (p, s, [])

/-- The number of places after a point: digits, perhaps none, or a star for one of the values. -/
def takePlaces (p : Placeholder) (s : Supply) (cs : List Char) :
    Outcome (Placeholder × Supply × List Char) :=
  match cs with
  | '.' :: '*' :: cs => do
    let (v, s) ← s.next
    let i ← starNumber placesLimit v
    return ({ p with places := some i.toNat }, s, cs)
  | '.' :: cs => do
    let (n, rest) ← takeCount placesLimit cs
    return ({ p with places := some n }, s, rest)
  | cs => .ok (p, s, cs)

/-- Drop a letter for the size of a number, which changes nothing. -/
def dropSize : List Char → List Char
  | c :: cs => if c = 'h' ∨ c = 'l' ∨ c = 'L' then cs else c :: cs
  | [] => []

/-- A placeholder after its percent sign, the values left for it and what follows it. -/
def takePlaceholder (s : Supply) (cs : List Char) : Outcome (Placeholder × Supply × List Char) := do
  let (s, cs) ← takeKey s cs
  let (p, cs) := takeFlags ⟨false, false, false, false, false, none, none, ' '⟩ cs
  let (p, s, cs) ← takeWidth p s cs
  let (p, s, cs) ← takePlaces p s cs
  match dropSize cs with
  | [] => raised .badValue "incomplete format"
  | c :: rest => return ({ p with letter := c }, s, rest)

/-! ## Filling -/

def blanks (n : Nat) : List Char := List.replicate n ' '

/-- Text under a width. -/
def Placeholder.fillText (p : Placeholder) (cs : List Char) : List Char :=
  let gap := p.width.getD 0 - cs.length
  if p.left then cs ++ blanks gap else blanks gap ++ cs

/-- Text cut to a number of characters, under a width. -/
def Placeholder.cutText (p : Placeholder) (s : String) : List Char :=
  p.fillText (match p.places with
    | some n => s.toList.take n
    | none => s.toList)

/-- A number under a width: its sign, the mark of its base, its digits. Zeros go before the digits
and blanks before or after the whole. -/
def Placeholder.fillNumber (p : Placeholder) (negative : Bool) (mark digits : List Char) :
    List Char :=
  let sign := if negative then ['-'] else if p.signed then ['+'] else if p.blank then [' '] else []
  let gap := p.width.getD 0 - (sign.length + mark.length + digits.length)
  if p.left then sign ++ mark ++ digits ++ blanks gap
  else if p.zeros then sign ++ mark ++ List.replicate gap '0' ++ digits
  else blanks gap ++ sign ++ mark ++ digits

/-! ## Writing -/

/-- A text with the characters outside ASCII escaped. -/
def asciiChar (c : Char) : List Char :=
  if c.toNat < 0x80 then [c]
  else if c.toNat < 0x100 then '\\' :: 'x' :: hexDigits 2 c.toNat
  else if c.toNat < 0x10000 then '\\' :: 'u' :: hexDigits 4 c.toNat
  else '\\' :: 'U' :: hexDigits 8 c.toNat

def asciiText (s : String) : String := String.ofList (s.toList.flatMap asciiChar)

/-- The whole number that a value is written as in base ten: a real one loses its fraction. -/
def decimalOf (v : Value) : Outcome Int :=
  match v.numeric? with
  | some (.whole i) => .ok i
  | some (.real x) =>
    match x.truncate? with
    | some i => .ok i
    | none =>
      if x = .nan then raised .badValue "cannot convert float NaN to integer"
      else raised .overflow "cannot convert float infinity to integer"
  | none => raised .badType "a real number is required"

/-- The whole number that a value is written as in another base. -/
def wholeOf (v : Value) : Outcome Int :=
  match v.whole? with
  | some i => .ok i
  | none => raised .badType "an integer is required"

def capitals (cs : List Char) : List Char := cs.map Char.toUpper

/-- A whole number with a least number of digits, after the mark of its base if that is asked
for. -/
def Placeholder.writeWhole (p : Placeholder) (base : Nat) (mark : List Char) (i : Int) :
    Outcome (List Char) :=
  let ds := Nat.toDigits base i.natAbs
  let ds := List.replicate (p.places.getD 0 - ds.length) '0' ++ ds
  let mark := if p.alternate then mark else []
  if placesLimit - 3 ≤ (p.places.getD 0 : Int) then raised .overflow "precision too large"
  else if p.letter = 'X' then .ok (p.fillNumber (i < 0) (capitals mark) (capitals ds))
  else .ok (p.fillNumber (i < 0) mark ds)

/-- A real number; letters in it are capital if the placeholder's letter is. -/
def Placeholder.writeReal (p : Placeholder) (style : Style) (v : Value) : Outcome (List Char) :=
  match v.numeric? with
  | none => raised .badType "must be real number"
  | some n => do
    let x ← Value.asReal n
    let body := x.styled style p.alternate (p.places.getD 6)
    return p.fillNumber x.isNegative [] (if p.letter.isUpper then capitals body else body)

/-- The character that a value is: a text of one, or the one under a number. -/
def characterOf (v : Value) : Outcome Char :=
  match v with
  | .text s =>
    match s.toList with
    | [c] => .ok c
    | _ => raised .badType "%c requires int or char"
  | _ =>
    match v.whole? with
    | none => raised .badType "%c requires int or char"
    | some i =>
      if 0 ≤ i ∧ i < 0x110000 then .ok (Char.ofNat i.toNat)
      else raised .overflow "%c arg not in range(0x110000)"

/-- What a placeholder makes of a value. -/
def Placeholder.write (p : Placeholder) (v : Value) : Outcome (List Char) := do
  if Value.memoryLimit < max (p.width.getD 0) (p.places.getD 0) then Value.outOfMemory
  else if p.letter = 's' then return p.cutText (← v.displayed)
  else if p.letter = 'r' then return p.cutText (← v.showing)
  else if p.letter = 'a' then return p.cutText (asciiText (← v.showing))
  else if p.letter = 'd' ∨ p.letter = 'i' ∨ p.letter = 'u' then
    let i ← decimalOf v
    if Value.unwritable ≤ i.natAbs then Value.tooManyDigits else p.writeWhole 10 [] i
  else if p.letter = 'o' then p.writeWhole 8 ['0', 'o'] (← wholeOf v)
  else if p.letter = 'x' ∨ p.letter = 'X' then p.writeWhole 16 ['0', 'x'] (← wholeOf v)
  else if p.letter = 'e' ∨ p.letter = 'E' then p.writeReal .scientific v
  else if p.letter = 'f' ∨ p.letter = 'F' then p.writeReal .positional v
  else if p.letter = 'g' ∨ p.letter = 'G' then p.writeReal .general v
  else if p.letter = 'c' then return p.fillText [← characterOf v]
  else raised .badValue "unsupported format character"

/-- Put values into the places of a text. The fuel is the length of the text. -/
def putIn : Nat → List Char → Supply → Outcome (List Char)
  | _, [], s =>
    if s.rest.isEmpty || s.entries.isSome then .ok []
    else raised .badType "not all arguments converted during string formatting"
  | 0, _ :: _, _ => .ok []
  | fuel + 1, '%' :: '%' :: cs, s => (putIn fuel cs s).map ('%' :: ·)
  | fuel + 1, '%' :: cs, s => do
    let (p, s, rest) ← takePlaceholder s cs
    let (v, s) ← s.next
    let written ← p.write v
    return written ++ (← putIn fuel rest s)
  | fuel + 1, c :: cs, s => (putIn fuel cs s).map (c :: ·)

/-- A text with values put into its places. -/
def filled (s : String) (values : Value) : Outcome Value :=
  (putIn s.length s.toList (Supply.ofValue values)).map fun cs => .text (String.ofList cs)

end Pinboard.Script
