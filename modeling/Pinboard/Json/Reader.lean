import Pinboard.Json.Basic
import Pinboard.Number.Decimal

/-!
# Reading JSON

A reader takes characters from the front of a text and gives a value with what is left. Of two
entries under one key the later one counts. The words `NaN`, `Infinity` and `-Infinity` are numbers.
-/
namespace Pinboard.Json

/-- Why a text is not read as JSON. -/
inductive ReadError where
  | malformed
  /-- A whole number with more digits than are read. -/
  | tooManyDigits (count : Nat)
  deriving DecidableEq, Repr

abbrev Read (α : Type) := Except ReadError (α × List Char)

def isGap (c : Char) : Bool := c == ' ' || c == '\t' || c == '\n' || c == '\r'

def skipGap (cs : List Char) : List Char := cs.dropWhile isGap

/-! ## Strings -/

def hexValue? (c : Char) : Option Nat :=
  if '0' ≤ c ∧ c ≤ '9' then some (c.toNat - 48)
  else if 'a' ≤ c ∧ c ≤ 'f' then some (c.toNat - 87)
  else if 'A' ≤ c ∧ c ≤ 'F' then some (c.toNat - 55)
  else none

def unit? (a b c d : Char) : Option Nat := do
  let a ← hexValue? a
  let b ← hexValue? b
  let c ← hexValue? c
  let d ← hexValue? d
  return 4096 * a + 256 * b + 16 * c + d

def shortEscape? (c : Char) : Option Nat :=
  if c = '"' ∨ c = '\\' ∨ c = '/' then some c.toNat
  else if c = 'b' then some 8
  else if c = 'f' then some 12
  else if c = 'n' then some 10
  else if c = 'r' then some 13
  else if c = 't' then some 9
  else none

/-- The code units up to the closing quote; an escape gives one unit. -/
def stringUnits : List Char → Read (List Nat)
  | [] => .error .malformed
  | '"' :: rest => .ok ([], rest)
  | '\\' :: 'u' :: a :: b :: c :: d :: rest =>
    match unit? a b c d with
    | none => .error .malformed
    | some n => (stringUnits rest).map fun (ns, after) => (n :: ns, after)
  | '\\' :: c :: rest =>
    match shortEscape? c with
    | none => .error .malformed
    | some n => (stringUnits rest).map fun (ns, after) => (n :: ns, after)
  | c :: rest =>
    if c.toNat < 0x20 ∨ c = '\\' then .error .malformed
    else (stringUnits rest).map fun (ns, after) => (c.toNat :: ns, after)

/-- Characters from code units: a high surrogate takes the low one that follows. -/
def joinUnits : List Nat → List Char
  | [] => []
  | [n] => [Char.ofNat n]
  | n :: m :: rest =>
    if 0xD800 ≤ n ∧ n < 0xDC00 ∧ 0xDC00 ≤ m ∧ m < 0xE000 then
      Char.ofNat (0x10000 + (n - 0xD800) * 0x400 + (m - 0xDC00)) :: joinUnits rest
    else Char.ofNat n :: joinUnits (m :: rest)

def readString (cs : List Char) : Read String :=
  (stringUnits cs).map fun (ns, rest) => (String.ofList (joinUnits ns), rest)

/-! ## Numbers -/

def isAsciiDigit (c : Char) : Bool := '0' ≤ c && c ≤ '9'

def digitValues (cs : List Char) : List Nat := cs.map fun c => c.toNat - 48

/-- A fraction: a point with a digit after it. -/
def splitFraction : List Char → List Char × List Char
  | '.' :: cs =>
    let ds := cs.takeWhile isAsciiDigit
    if ds.isEmpty then ([], '.' :: cs) else (ds, cs.dropWhile isAsciiDigit)
  | cs => ([], cs)

/-- An exponent that has a digit. -/
def splitExponent : List Char → Option Int × List Char
  | c :: cs =>
    if c = 'e' ∨ c = 'E' then
      let (negative, rest) := Number.takeSign cs
      let ds := rest.takeWhile isAsciiDigit
      if ds.isEmpty then (none, c :: cs)
      else
        let n : Int := Number.ofDigitValues (digitValues ds)
        (some (if negative then -n else n), rest.dropWhile isAsciiDigit)
    else (none, c :: cs)
  | [] => (none, [])

/-- The digits of the whole part: a zero alone, or a run that starts with another digit. -/
def splitWhole (cs : List Char) : List Char × List Char :=
  match cs with
  | '0' :: rest => (['0'], rest)
  | cs => (cs.takeWhile isAsciiDigit, cs.dropWhile isAsciiDigit)

def readNumber (negative : Bool) (cs : List Char) : Read Json :=
  let (whole, rest) := splitWhole cs
  if whole.isEmpty then .error .malformed
  else
    let (fraction, rest) := splitFraction rest
    let (power, rest) := splitExponent rest
    if fraction.isEmpty && power.isNone then
      if Number.digitLimit < whole.length then .error (.tooManyDigits whole.length)
      else
        let n : Int := Number.ofDigitValues (digitValues whole)
        .ok (.int (if negative then -n else n), rest)
    else
      let ds := Number.ofDigitValues (digitValues (whole ++ fraction))
      .ok (.real (.ofDecimal negative ds (power.getD 0 - fraction.length)), rest)

/-! ## Values -/

/-- A fixed word at the front. -/
def word? (w : String) (cs : List Char) : Option (List Char) :=
  if w.toList.isPrefixOf cs then some (cs.drop w.length) else none

/-- A value that is no container and no string. -/
def readScalar (cs : List Char) : Read Json :=
  match word? "null" cs with
  | some rest => .ok (.null, rest)
  | none =>
  match word? "true" cs with
  | some rest => .ok (.bool true, rest)
  | none =>
  match word? "false" cs with
  | some rest => .ok (.bool false, rest)
  | none =>
  match word? "NaN" cs with
  | some rest => .ok (.real .nan, rest)
  | none =>
  match word? "Infinity" cs with
  | some rest => .ok (.real (.infinite false), rest)
  | none =>
  match word? "-Infinity" cs with
  | some rest => .ok (.real (.infinite true), rest)
  | none =>
  match cs with
  | '-' :: rest => readNumber true rest
  | cs => readNumber false cs

mutual

/-- Read one value; `fuel` bounds the number of values and entries inside it. -/
def readValue : Nat → List Char → Read Json
  | 0, _ => .error .malformed
  | _ + 1, '"' :: cs => (readString cs).map fun (s, rest) => (.str s, rest)
  | fuel + 1, '[' :: cs =>
    match skipGap cs with
    | ']' :: rest => .ok (.arr [], rest)
    | cs => (readItems fuel cs).map fun (items, rest) => (.arr items, rest)
  | fuel + 1, '{' :: cs =>
    match skipGap cs with
    | '}' :: rest => .ok (.obj [], rest)
    | cs => (readFields fuel cs).map fun (fields, rest) => (.obj (Fields.ofList fields), rest)
  | _ + 1, cs => readScalar cs

/-- Read the rest of an array that still holds an item. -/
def readItems : Nat → List Char → Read (List Json)
  | 0, _ => .error .malformed
  | fuel + 1, cs =>
    match readValue fuel cs with
    | .error e => .error e
    | .ok (v, rest) =>
      match skipGap rest with
      | ']' :: rest => .ok ([v], rest)
      | ',' :: rest => (readItems fuel (skipGap rest)).map fun (vs, rest) => (v :: vs, rest)
      | _ => .error .malformed

/-- Read the rest of an object that still holds an entry. -/
def readFields : Nat → List Char → Read (List (String × Json))
  | 0, _ => .error .malformed
  | fuel + 1, '"' :: cs =>
    match readString cs with
    | .error e => .error e
    | .ok (key, rest) =>
      match skipGap rest with
      | ':' :: rest =>
        match readValue fuel (skipGap rest) with
        | .error e => .error e
        | .ok (v, rest) =>
          match skipGap rest with
          | '}' :: rest => .ok ([(key, v)], rest)
          | ',' :: rest =>
            (readFields fuel (skipGap rest)).map fun (fs, rest) => ((key, v) :: fs, rest)
          | _ => .error .malformed
      | _ => .error .malformed
  | _ + 1, _ => .error .malformed

end

/-- Read a text that holds one value and gaps around it. -/
def read (s : String) : Except ReadError Json :=
  let cs := skipGap s.toList
  match readValue (cs.length + 1) cs with
  | .error e => .error e
  | .ok (v, rest) => if (skipGap rest).isEmpty then .ok v else .error .malformed

def read? (s : String) : Option Json := (read s).toOption

end Pinboard.Json
