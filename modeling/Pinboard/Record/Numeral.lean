import Pinboard.Number.ReadReal
import Pinboard.Number.Whole

/-!
# Numbers as text in records

Records keep numbers as text in a form of their own: in ASCII, with spaces around them. A whole
number may start with zeros and may have a fraction of zeros; single underscores between its
characters are passed over.
-/
namespace Pinboard.Record

open Number

def isAscii (c : Char) : Bool := c.val < 128

def isAsciiDigit (c : Char) : Bool := '0' ≤ c && c ≤ '9'

/-- Whether a text neither starts nor ends with an underscore and holds no two in a row. -/
def isJoinable : List Char → Bool
  | [] => true
  | '_' :: _ => false
  | [_] => true
  | c :: '_' :: rest => c != '_' && isJoinable rest
  | _ :: rest => isJoinable rest

/-- Pass over the underscores of a text where they may stand. -/
def joined (cs : List Char) : List Char := if isJoinable cs then cs.filter (· != '_') else cs

/-! ## Whole numbers -/

/-- What follows a row of zeros and underscores; a point keeps the last of them, and so does the
end. -/
def afterZeros? (last : Char) : List Char → Option (List Char)
  | [] => some [last]
  | c :: cs =>
    if c = '0' ∨ c = '_' then afterZeros? c cs
    else if c = '.' then some (last :: c :: cs)
    else if isAsciiDigit c || c == '-' then some (c :: cs)
    else none

/-- Drop the zeros in front of a number. It starts with a digit or a minus sign. -/
def dropZeros? : List Char → Option (List Char)
  | [] => none
  | c :: cs =>
    if c = '0' then afterZeros? c cs
    else if isAsciiDigit c || c == '-' then some (c :: cs)
    else none

/-- Drop a fraction that consists of zeros. -/
def dropZeroFraction (cs : List Char) : List Char :=
  match cs.dropWhile (· != '.') with
  | '.' :: fraction =>
    if !fraction.isEmpty && fraction.all (· == '0') then cs.takeWhile (· != '.') else cs
  | _ => cs

/-- A number without what may be left out: spaces, a plus sign, zeros in front and a fraction of
zeros, underscores. -/
def plainWhole? (cs : List Char) : Option (List Char) :=
  let core := Text.stripOf Text.isSpace cs
  let unsigned :=
    match core with
    | '+' :: '-' :: _ => none
    | '+' :: rest => some rest
    | rest => some rest
  unsigned.bind fun rest => (dropZeros? rest).map fun found => joined (dropZeroFraction found)

/-- The digits of a short numeral. -/
def shortDigits? (cs : List Char) : Option (List Nat) :=
  if !cs.isEmpty && cs.all isAsciiDigit then some (cs.map fun c => c.toNat - 48) else none

/-- The digits of a long numeral, among which underscores may stand anywhere but in front. -/
def longDigits? (cs : List Char) : Option (List Nat) :=
  if cs.head? = some '_' then none else shortDigits? (cs.filter (· != '_'))

/-- Numerals of this length count as long. -/
def longNumeral : Nat := 19

/-- Read a whole number. -/
def wholeOfText (s : String) : Except NumeralFault Int :=
  match plainWhole? s.toList with
  | none => .error .malformed
  | some cs =>
    let length := (String.ofList cs).utf8ByteSize
    if digitLimit < length then .error (.tooLong length)
    else
      let (negative, body) :=
        match cs with
        | '-' :: rest => (true, rest)
        | rest => (false, rest)
      match if length < longNumeral then shortDigits? body else longDigits? body with
      | none => .error .malformed
      | some ds =>
        let n : Int := ofDigitValues ds
        .ok (if negative then -n else n)

/-! ## Real numbers -/

/-- Read a real number without underscores and spaces. -/
def plainReal? (cs : List Char) : Option Binary64 :=
  if cs.all fun c => isAscii c && !Text.isBlank c && c != '_' then readReal? (String.ofList cs)
  else none

/-- Read a real number. Around one that has underscores there are no spaces. -/
def realOfText? (s : String) : Option Binary64 :=
  (plainReal? (Text.stripOf Text.isSpace s.toList)).or
    (if isJoinable s.toList then plainReal? (joined s.toList) else none)

end Pinboard.Record
