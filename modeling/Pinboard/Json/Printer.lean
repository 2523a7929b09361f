import Pinboard.Json.Basic
import Pinboard.Number.Shortest

/-!
# Writing JSON

One line: a comma and a colon are followed by one space. A character outside printable ASCII is
escaped, one beyond the basic plane as a surrogate pair.
-/
namespace Pinboard.Json

/-- A UTF-16 unit as an escape. -/
def unitEscape (n : Nat) : List Char := '\\' :: 'u' :: Number.hexDigits 4 n

def escapedChar (c : Char) : List Char :=
  if c = '"' then ['\\', '"']
  else if c = '\\' then ['\\', '\\']
  else if c = '\n' then ['\\', 'n']
  else if c = '\r' then ['\\', 'r']
  else if c = '\t' then ['\\', 't']
  else if c.toNat = 8 then ['\\', 'b']
  else if c.toNat = 12 then ['\\', 'f']
  else if 0x20 ≤ c.toNat ∧ c.toNat < 0x7F then [c]
  else if c.toNat < 0x10000 then unitEscape c.toNat
  else
    let n := c.toNat - 0x10000
    unitEscape (0xD800 + n / 0x400) ++ unitEscape (0xDC00 + n % 0x400)

def stringChars (s : String) : List Char := '"' :: s.toList.flatMap escapedChar ++ ['"']

/-- The spelling of a floating-point number; the values without one in JSON take words. -/
def realChars (x : Number.Binary64) : List Char :=
  match x with
  | .nan => "NaN".toList
  | .infinite s => if s then "-Infinity".toList else "Infinity".toList
  | x => x.text.toList

def intChars (i : Int) : List Char :=
  if i < 0 then '-' :: Number.digits i.natAbs else Number.digits i.natAbs

mutual

def chars : Json → List Char
  | .null => ['n', 'u', 'l', 'l']
  | .bool true => ['t', 'r', 'u', 'e']
  | .bool false => ['f', 'a', 'l', 's', 'e']
  | .int i => intChars i
  | .real x => realChars x
  | .str s => stringChars s
  | .arr items => '[' :: itemChars items ++ [']']
  | .obj fields => '{' :: fieldChars fields ++ ['}']

def itemChars : List Json → List Char
  | [] => []
  | [v] => chars v
  | v :: w :: rest => chars v ++ ',' :: ' ' :: itemChars (w :: rest)

def fieldChars : List (String × Json) → List Char
  | [] => []
  | [(k, v)] => stringChars k ++ ':' :: ' ' :: chars v
  | (k, v) :: f :: rest =>
    stringChars k ++ ':' :: ' ' :: chars v ++ ',' :: ' ' :: fieldChars (f :: rest)

end

/-- The text of a value on one line, however long its numbers are. -/
def print (v : Json) : String := String.ofList (chars v)

/-! ## Numbers that are too long -/

mutual

/-- Whether no whole number in a value has too many digits to be written. -/
def isPrintable : Json → Bool
  | .int i => (Number.digits i.natAbs).length ≤ Number.digitLimit
  | .arr items => allPrintable items
  | .obj fields => fieldsPrintable fields
  | _ => true

def allPrintable : List Json → Bool
  | [] => true
  | v :: rest => isPrintable v && allPrintable rest

def fieldsPrintable : List (String × Json) → Bool
  | [] => true
  | (_, v) :: rest => isPrintable v && fieldsPrintable rest

end

/-- The text of a value on one line, if all its numbers can be written. -/
def print? (v : Json) : Option String := if v.isPrintable then some v.print else none

end Pinboard.Json
