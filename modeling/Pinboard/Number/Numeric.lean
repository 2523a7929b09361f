import Pinboard.Number.Binary64

/-!
# Numbers of both kinds

Whole numbers and real ones in one order. A whole number is compared with a real one by their exact
values, never by rounding the whole one.
-/
namespace Pinboard.Number

/-- A number. -/
inductive Numeric where
  | whole (i : Int)
  | real (x : Binary64)
  deriving DecidableEq, Repr

namespace Numeric

/-- A number as a real one, which may be infinite for a whole number that is too large. -/
def toReal : Numeric → Binary64
  | .real x => x
  | .whole i => .ofInt i

def equal : Numeric → Numeric → Bool
  | .whole i, .whole j => i == j
  | .real x, .real y => x.numEq y
  | .whole i, .real x => x.isWhole && x.truncate? == some i
  | .real x, .whole i => x.isWhole && x.truncate? == some i

/-- Whether a number is below another, for a whole and a real one by rounding down the real. -/
def below : Numeric → Numeric → Bool
  | .whole i, .whole j => i < j
  | .real x, .real y => x.lt y
  | .whole i, .real x =>
    match x.floor? with
    | some n => if x.isWhole then i < n else i ≤ n
    | none => x == .infinite false
  | .real x, .whole i =>
    match x.floor? with
    | some n => n < i
    | none => x == .infinite true

/-- A number and a whole one added. -/
def plus (n : Numeric) (i : Int) : Numeric :=
  match n with
  | .whole j => .whole (j + i)
  | .real x => .real (x.add (.ofInt i))

end Numeric
end Pinboard.Number
