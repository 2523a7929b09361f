import Pinboard.Number.Binary64
import Pinboard.Number.Decimal
import Pinboard.Text.Basic
import Pinboard.Text.Lowercase

/-!
# Reading real numbers

A decimal numeral with an optional sign, fraction and exponent, or the words for infinity and
not-a-number, with blanks around it.
-/
namespace Pinboard.Number

/-- A fraction after the point. -/
def takeFraction : List Char → List Nat × List Char
  | '.' :: cs => takeDigits false cs
  | cs => ([], cs)

/-- An exponent; one without digits is no numeral. -/
def takeExponent : List Char → Option (Int × List Char)
  | c :: cs =>
    if c = 'e' ∨ c = 'E' then
      let (negative, rest) := takeSign cs
      match takeDigits false rest with
      | ([], _) => none
      | (ds, after) =>
        let n : Int := ofDigitValues ds
        some (if negative then -n else n, after)
    else some (0, c :: cs)
  | [] => some (0, [])

def infinityWords : List String := ["inf", "infinity"]

def readReal? (s : String) : Option Binary64 :=
  let (negative, body) := takeSign (Text.stripOf Text.isSpace s.toList)
  let word := Text.lower (String.ofList body)
  if infinityWords.contains word then some (.infinite negative)
  else if word = "nan" then some .nan
  else
    let (whole, rest) := takeDigits false body
    let (fraction, rest) := takeFraction rest
    if whole.isEmpty && fraction.isEmpty then none
    else match takeExponent rest with
      | some (power, []) =>
        some (.ofDecimal negative (ofDigitValues (whole ++ fraction)) (power - fraction.length))
      | _ => none

end Pinboard.Number
