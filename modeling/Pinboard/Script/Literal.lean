import Pinboard.Json.Reader
import Pinboard.Number.Binary64
import Pinboard.Number.Whole
import Pinboard.Text.Identifier

/-!
# Literals of scripts

Numbers and texts as they are written in scripts. Whole numbers are in base ten, or in another base
under a mark; single underscores may stand between digits. A text stands between single or double
quotes, or between three of them if it spans lines, and holds escapes unless it is marked as raw.
-/
namespace Pinboard.Script

inductive Literal where
  | none
  | truth (value : Bool)
  | whole (value : Nat)
  | real (value : Number.Binary64)
  | text (value : String)
  deriving DecidableEq, Repr

/-! ## Numbers -/

/-- A row of decimal digits, perhaps none; single underscores may stand between them. -/
def takeRow? (cs : List Char) : Option (List Nat × List Char) :=
  let written := cs.takeWhile fun c => Json.isAsciiDigit c || c == '_'
  let (ds, left) := Number.takeDigits false written
  if left.isEmpty then some (ds, cs.drop written.length) else none

/-- An exponent, if one is there: its sign and its digits. -/
def takeExponent? (cs : List Char) : Option (Option Int × List Char) :=
  match cs with
  | c :: rest =>
    if c = 'e' ∨ c = 'E' then do
      let (negative, digits) := Number.takeSign rest
      let (ds, rest) ← takeRow? digits
      let n : Int := Number.ofDigitValues ds
      if ds.isEmpty then none else some (some (if negative then -n else n), rest)
    else some (none, cs)
  | [] => some (none, [])

/-- A point and the digits after it, if they are there. -/
def takeFraction? (cs : List Char) : Option (Option (List Nat) × List Char) :=
  match cs with
  | '.' :: rest => (takeRow? rest).map fun (ds, rest) => (some ds, rest)
  | _ => some (none, cs)

/-- A number in base ten, with a fraction and an exponent or whole. A whole one starts with a zero
only in a row of zeros, and is no longer than numerals may be. No letter follows directly. -/
def takeDecimal? (cs : List Char) : Option (Literal × List Char) := do
  let (whole, rest) ← takeRow? cs
  let (fraction, rest) ← takeFraction? rest
  let (exponent, rest) ← takeExponent? rest
  let n := Number.ofDigitValues whole
  if (rest.head?.map Text.isIdentifierPart).getD false then none
  else if fraction.isSome || exponent.isSome then
    let digits := fraction.getD []
    let value := Number.Binary64.ofDecimal false (Number.ofDigitValues (whole ++ digits))
      (exponent.getD 0 - digits.length)
    some (.real value, rest)
  else if n = 0 then some (.whole 0, rest)
  else if whole.head? = some 0 then none
  else if Number.digitLimit < whole.length then none
  else some (.whole n, rest)

/-- The digits of a whole number after the mark of its base. -/
def takeMarked? (base : Nat) (cs : List Char) : Option (Literal × List Char) :=
  let written := cs.takeWhile Text.isIdentifierPart
  let digits := Number.dropUnderscore written
  if written.any (0x80 ≤ ·.toNat) || digits.head? = some '_' then none
  else
    match Number.takeRow? base digits with
    | some (d :: ds, []) => some (.whole (Number.ofDigitsIn base (d :: ds)), cs.drop written.length)
    | _ => none

def takeNumber? (cs : List Char) : Option (Literal × List Char) :=
  match cs with
  | '0' :: c :: rest =>
    match Number.markedBase? c with
    | some base => takeMarked? base rest
    | none => takeDecimal? cs
  | _ => takeDecimal? cs

/-! ## Texts -/

/-- What stands between quotes, and what follows the closing ones. A text between single quotes ends
on its line, and a character after a backslash ends nothing. -/
def takeQuoted? (quote : Char) (long : Bool) : List Char → Option (List Char × List Char)
  | [] => none
  | '\\' :: c :: cs => (takeQuoted? quote long cs).map fun (body, rest) => ('\\' :: c :: body, rest)
  | c :: cs =>
    if c = quote then
      if long then
        match cs with
        | d :: e :: rest =>
          if d = quote ∧ e = quote then some ([], rest)
          else (takeQuoted? quote long (d :: e :: rest)).map fun (body, rest) => (c :: body, rest)
        | _ => none
      else some ([], cs)
    else if c = '\n' ∧ !long then none
    else (takeQuoted? quote long cs).map fun (body, rest) => (c :: body, rest)

/-- What a letter or sign after a backslash stands for, if it needs no more than itself. -/
def plainEscape? (c : Char) : Option (List Char) :=
  if c = '\\' ∨ c = '\'' ∨ c = '"' then some [c]
  else if c = '\n' then some []
  else if c = 'a' then some ['\x07']
  else if c = 'b' then some ['\x08']
  else if c = 'f' then some ['\x0c']
  else if c = 'n' then some ['\n']
  else if c = 'r' then some ['\r']
  else if c = 't' then some ['\t']
  else if c = 'v' then some ['\x0b']
  else none

/-- How many hexadecimal digits an escape takes. -/
def hexEscape? (c : Char) : Option Nat :=
  if c = 'x' then some 2 else if c = 'u' then some 4 else if c = 'U' then some 8 else none

/-- The character under a number, if there is one. -/
def scalar? (n : Nat) : Option Char := if n.isValidChar then some (Char.ofNat n) else none

/-- The character that a row of hexadecimal digits stands for. -/
def hexScalar? (count : Nat) (cs : List Char) : Option Char := do
  let ds ← (cs.take count).mapM Json.hexValue?
  if ds.length = count then scalar? (Number.ofDigitsIn 16 ds) else none

/-- Up to three octal digits at the front. -/
def octalDigits (cs : List Char) : List Char := (cs.take 3).takeWhile fun c => '0' ≤ c && c ≤ '7'

/-- The characters that a text with escapes stands for; an unknown escape stands for itself. -/
def unescape? : List Char → Option (List Char)
  | [] => some []
  | '\\' :: c :: cs =>
    let digits := octalDigits (c :: cs)
    match plainEscape? c, hexEscape? c with
    | some meant, _ => (unescape? cs).map (meant ++ ·)
    | none, some count => do
      let meant ← hexScalar? count cs
      return meant :: (← unescape? (cs.drop count))
    | none, none =>
      if c = 'N' then none
      else if digits.isEmpty then (unescape? cs).map fun rest => '\\' :: c :: rest
      else do
        let meant ← scalar? (Number.ofDigitsIn 8 (Json.digitValues digits))
        return meant :: (← unescape? (cs.drop (digits.length - 1)))
  | c :: cs => (unescape? cs).map (c :: ·)
termination_by cs => cs.length
decreasing_by all_goals (simp only [List.length_cons, List.length_drop]; omega)

def isQuote (c : Char) : Bool := c == '"' || c == '\''

/-- The body of a text that starts with a quote, or with three for a long one, and what follows. -/
def takeBody? : List Char → Option (List Char × List Char)
  | q :: r :: s :: cs =>
    if q = r ∧ r = s then takeQuoted? q true cs else takeQuoted? q false (r :: s :: cs)
  | q :: cs => takeQuoted? q false cs
  | [] => none

/-- Whether a text in quotes is at the front, perhaps after a mark. -/
def startsText : List Char → Bool
  | c :: d :: _ => isQuote c || ("rRuU".toList.contains c && isQuote d)
  | _ => false

/-- A text at the front, the line ends that it spans, and what follows. -/
def takeText? (cs : List Char) : Option (Literal × Nat × List Char) := do
  let raw := cs.head? = some 'r' || cs.head? = some 'R'
  let (body, rest) ← takeBody? (if (cs.head?.map isQuote).getD false then cs else cs.drop 1)
  let meant ← if raw then some body else unescape? body
  return (.text (String.ofList meant), body.count '\n', rest)

end Pinboard.Script
