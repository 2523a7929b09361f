import Pinboard.Number.Shortest

/-!
# Decimal text with chosen places

The text of a binary floating-point number rounded to a number of places: positional, with an
exponent, or whichever of the two is shorter. The exact value is rounded once, from a tie to the
even digit. The text has no sign.
-/
namespace Pinboard.Number

/-- How a number is written. -/
inductive Style where
  /-- Positional, with places after the point. -/
  | positional
  /-- One digit before the point, places after it, and an exponent. -/
  | scientific
  /-- Places of significance, with an exponent where the order is below -4 or needs more places. -/
  | general
  deriving DecidableEq, Repr

namespace Binary64

/-- Every further digit of a finite value, before or after the point, is a zero. -/
def exactPlaces : Nat := 1100

/-- The digits of `n / d` rounded to a number of significant ones, and the exponent of the first. -/
def significant (count n d : Nat) : List Char × Int :=
  let kept := min count exactPlaces
  let zeros := List.replicate (count - kept) '0'
  if n = 0 then (List.replicate kept '0' ++ zeros, 0)
  else
    let order := decimalOrder n d
    let power := order - (kept - 1 : Nat)
    let x := nearestEven (n * 10 ^ (-power).toNat) (d * 10 ^ power.toNat)
    if x = 10 ^ kept then (Number.digits (x / 10) ++ zeros, order + 1)
    else (Number.digits x ++ zeros, order)

/-- Digits with a point before the fraction; the point is kept without one if it has to be. -/
def pointed (keepPoint : Bool) (whole fraction : List Char) : List Char :=
  if fraction.isEmpty && !keepPoint then whole else whole ++ '.' :: fraction

def exponentText (order : Int) : List Char :=
  'e' :: (if order < 0 then '-' else '+') :: Number.padded 2 order.natAbs

def positionalText (keepPoint : Bool) (places n d : Nat) : List Char :=
  let kept := min places exactPlaces
  let ds := Number.padded (kept + 1) (nearestEven (n * 10 ^ kept) d)
  let whole := ds.length - kept
  pointed keepPoint (ds.take whole) (ds.drop whole ++ List.replicate (places - kept) '0')

def scientificText (keepPoint : Bool) (places n d : Nat) : List Char :=
  let (ds, order) := significant (places + 1) n d
  pointed keepPoint (ds.take 1) (ds.drop 1) ++ exponentText order

/-- Drop the zeros at the end of a fraction. -/
def dropFinalZeros (ds : List Char) : List Char := (ds.reverse.dropWhile (· == '0')).reverse

/-- Zeros at the end of the fraction are kept only together with the point. -/
def generalText (keepPoint : Bool) (places n d : Nat) : List Char :=
  let count := max places 1
  let (ds, order) := significant count n d
  let trim (fraction : List Char) := if keepPoint then fraction else dropFinalZeros fraction
  if order < -4 ∨ count ≤ order then
    pointed keepPoint (ds.take 1) (trim (ds.drop 1)) ++ exponentText order
  else if order < 0 then
    pointed keepPoint ['0'] (trim (List.replicate (-order - 1).toNat '0' ++ ds))
  else pointed keepPoint (ds.take (order.toNat + 1)) (trim (ds.drop (order.toNat + 1)))

/-- The text of a number without its sign. -/
def styled (style : Style) (keepPoint : Bool) (places : Nat) : Binary64 → List Char
  | .nan => "nan".toList
  | .infinite _ => "inf".toList
  | .finite _ m q =>
    let n := m * 2 ^ q.toNat
    let d := 2 ^ (-q).toNat
    match style with
    | .positional => positionalText keepPoint places n d
    | .scientific => scientificText keepPoint places n d
    | .general => generalText keepPoint places n d

end Binary64
end Pinboard.Number
