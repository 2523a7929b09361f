import Pinboard.Number.Binary64
import Pinboard.Number.Decimal

/-!
# Shortest decimal text

The text of a binary floating-point number with the fewest digits that read back as that number, and
among those the digits nearest to it. For each number of digits the two neighbours on that decimal
grid are tested against the interval of reals that round to the number.
-/
namespace Pinboard.Number

/-- A decimal numeral `digits · 10 ^ power`. -/
structure DecimalDigits where
  digits : Nat
  power : Int
  deriving DecidableEq, Repr

namespace Binary64

/-- The reals that round to `significand · 2 ^ exponent`: four times the significand, the distances
down and up in the same unit, and whether the ends belong to it. -/
structure RoundingInterval where
  centre : Nat
  below : Nat
  above : Nat
  closed : Bool
  exponent : Int

def roundingInterval (m : Nat) (q : Int) : RoundingInterval where
  centre := 4 * m
  below := if m = 2 ^ 52 ∧ -1074 < q then 1 else 2
  above := 2
  closed := m % 2 == 0
  exponent := q - 2

/-- Whether `c · 10 ^ power` lies in the interval. -/
def RoundingInterval.holds (i : RoundingInterval) (c : Nat) (power : Int) : Bool :=
  let x := c * 10 ^ power.toNat * 2 ^ (-i.exponent).toNat
  let unit := 10 ^ (-power).toNat * 2 ^ i.exponent.toNat
  let low := (i.centre - i.below) * unit
  let high := (i.centre + i.above) * unit
  if i.closed then low ≤ x && x ≤ high else low < x && x < high

/-- The decimal exponent `e` with `10 ^ e ≤ n / d < 10 ^ (e + 1)`. -/
def decimalOrder (n d : Nat) : Int :=
  if d ≤ n then ((Number.digits (n / d)).length : Int) - 1
  else
    -- `d / n` rounded up has as many digits as the order says, a power of ten one too many.
    let up := (d + n - 1) / n
    let len := (Number.digits up).length
    if up = 10 ^ (len - 1) then 1 - (len : Int) else -(len : Int)

/-- The nearer of the two neighbours with `len` digits that lie in the interval. -/
def candidate? (i : RoundingInterval) (n d : Nat) (order : Int) (len : Nat) :
    Option DecimalDigits :=
  let power := order - (len - 1 : Nat)
  let num := n * 10 ^ (-power).toNat
  let den := d * 10 ^ power.toNat
  let low := num / den
  let near := nearestEven num den
  let far := if near = low then low + 1 else low
  if i.holds near power then some ⟨near, power⟩
  else if i.holds far power then some ⟨far, power⟩
  else none

/-- The digits for a positive finite value. -/
def shortestDigits (m : Nat) (q : Int) : DecimalDigits :=
  let n := m * 2 ^ q.toNat
  let d := 2 ^ (-q).toNat
  let order := decimalOrder n d
  let i := roundingInterval m q
  ((List.range 17).findSome? fun k => candidate? i n d order (k + 1)).getD ⟨n / d, 0⟩

/-- Drop the zeros at the end of the digits. -/
def dropZeros : Nat → DecimalDigits → DecimalDigits
  | 0, x => x
  | fuel + 1, x =>
    if x.digits ≠ 0 ∧ x.digits % 10 = 0 then dropZeros fuel ⟨x.digits / 10, x.power + 1⟩ else x

/-- Numbers from `10 ^ -4` up to below `10 ^ 16` are written positionally and keep a digit after the
point; others take an exponent of at least two digits. -/
def unsignedText (x : DecimalDigits) : List Char :=
  let ds := Number.digits x.digits
  let order := x.power + ds.length - 1
  if -4 ≤ order ∧ order < 16 then
    if order < 0 then
      '0' :: '.' :: List.replicate (-order - 1).toNat '0' ++ ds
    else
      let whole := order.toNat + 1
      let before := ds.take whole ++ List.replicate (whole - ds.length) '0'
      let after := ds.drop whole
      before ++ '.' :: (if after.isEmpty then ['0'] else after)
  else
    let fraction := ds.drop 1
    ds.take 1 ++ (if fraction.isEmpty then [] else '.' :: fraction)
      ++ ['e', if order < 0 then '-' else '+'] ++ Number.padded 2 order.natAbs

/-- The shortest text that reads back as the number. -/
def text : Binary64 → String
  | .nan => "nan"
  | .infinite s => if s then "-inf" else "inf"
  | .finite s m q =>
    let body :=
      if m = 0 then ['0', '.', '0'] else unsignedText (dropZeros 400 (shortestDigits m q))
    String.ofList (if s then '-' :: body else body)

end Binary64
end Pinboard.Number
