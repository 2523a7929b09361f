import Pinboard.Text.Number

/-!
# Decimal numerals

Writing whole numbers in base ten, and the digits of numerals: those of any script, with single
underscores between them.
-/
namespace Pinboard.Number

/-- The digits of a number, most significant first. -/
def digits (n : Nat) : List Char := Nat.toDigits 10 n

def natText (n : Nat) : String := String.ofList (digits n)

def intText (i : Int) : String :=
  if i < 0 then "-" ++ natText i.natAbs else natText i.natAbs

/-- `n` in at least `width` digits, filled with zeros. -/
def padded (width n : Nat) : List Char :=
  let ds := digits n
  List.replicate (width - ds.length) '0' ++ ds

/-- Hexadecimal digits, small letters. -/
def hexDigits (width n : Nat) : List Char :=
  let ds := Nat.toDigits 16 n
  List.replicate (width - ds.length) '0' ++ ds

/-- The number written by a list of decimal digit values. -/
def ofDigitValues (ds : List Nat) : Nat := ds.foldl (fun n d => 10 * n + d) 0

/-- The longest run of digits at the front, with their values and what follows. An underscore may
stand between two digits; `inside` says that a digit came just before. -/
def takeDigits (inside : Bool) : List Char → List Nat × List Char
  | [] => ([], [])
  | c :: cs =>
    match Text.decimalValue? c with
    | some d =>
      let (ds, rest) := takeDigits true cs
      (d :: ds, rest)
    | none =>
      if inside && c == '_' && (cs.head?.map Text.isDecimal).getD false then takeDigits false cs
      else ([], c :: cs)

/-- Numerals longer than this are not read, and not written as data. -/
def digitLimit : Nat := 4300

/-- The message about a whole number that has too many digits to be written. -/
def unwritableMessage : String :=
  "Exceeds the limit (4300 digits) for integer string conversion; use "
    ++ "sys.set_int_max_str_digits() to increase the limit"

/-- An optional sign. -/
def takeSign : List Char → Bool × List Char
  | '-' :: cs => (true, cs)
  | '+' :: cs => (false, cs)
  | cs => (false, cs)

end Pinboard.Number
