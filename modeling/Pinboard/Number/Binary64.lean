import Pinboard.Number.Rounding

/-!
# Binary floating point

The values of the 64-bit binary format, as numbers `± significand · 2 ^ exponent`. Every operation
is the exact one followed by one rounding, to nearest and from a tie to the even significand.
-/
namespace Pinboard.Number

-- Powers mean the same in a module that imports the general ones of monoids.
attribute [instance (high), default_instance 20000] instPowNat

/-- A value of the 64-bit binary format. The finite values that the operations build are canonical:
the significand is below `2 ^ 53`, the exponent is at least `-1074`, and one of the two is as small
as it can be, so equal numbers of one sign have equal representations. -/
inductive Binary64 where
  | finite (negative : Bool) (significand : Nat) (exponent : Int)
  | infinite (negative : Bool)
  | nan
  deriving DecidableEq, Repr

namespace Binary64

def zero (negative : Bool) : Binary64 := .finite negative 0 (-1074)

instance : Inhabited Binary64 := ⟨zero false⟩

/-- The largest `e` with `2 ^ e ≤ n / d`, for positive `n` and `d`. -/
def floorLog (n d : Nat) : Int :=
  let guess : Int := (Nat.log2 n : Int) - Nat.log2 d
  if d * 2 ^ guess.toNat ≤ n * 2 ^ (-guess).toNat then guess else guess - 1

/-- The exponent with which a number between `2 ^ e` and `2 ^ (e + 1)` is written. -/
def exponentFor (e : Int) : Int := max (e - 52) (-1074)

/-- `significand · 2 ^ exponent`, one carry out of the 53rd bit and overflow taken care of. -/
def pack (negative : Bool) (significand : Nat) (exponent : Int) : Binary64 :=
  let (m, q) :=
    if significand = 2 ^ 53 then (2 ^ 52, exponent + 1) else (significand, exponent)
  if 971 < q then .infinite negative else .finite negative m q

/-- The value nearest to `± n / d`, for positive `d`. -/
def ofRatio (negative : Bool) (n d : Nat) : Binary64 :=
  if n = 0 then zero negative
  else
    let q := exponentFor (floorLog n d)
    pack negative (nearestEven (n * 2 ^ (-q).toNat) (d * 2 ^ q.toNat)) q

/-- The value nearest to `± digits · 10 ^ power`. Numbers beyond the format's range are settled
before the power is formed. -/
def ofDecimal (negative : Bool) (digits : Nat) (power : Int) : Binary64 :=
  if digits = 0 then zero negative
  else
    let order : Int := (Nat.log2 digits : Int) / 4 + power
    if 400 < order then .infinite negative
    else if (Nat.log2 digits : Int) / 3 + 1 + power < -400 then zero negative
    else ofRatio negative (digits * 10 ^ power.toNat) (10 ^ (-power).toNat)

def ofNat (n : Nat) : Binary64 := ofRatio false n 1

def ofInt (i : Int) : Binary64 := ofRatio (i < 0) i.natAbs 1

def isNegative : Binary64 → Bool
  | .finite s _ _ => s
  | .infinite s => s
  | .nan => false

def isZero : Binary64 → Bool
  | .finite _ m _ => m == 0
  | _ => false

def isFinite : Binary64 → Bool
  | .finite .. => true
  | _ => false

def neg : Binary64 → Binary64
  | .finite s m q => .finite (!s) m q
  | .infinite s => .infinite (!s)
  | .nan => .nan

/-- The significand with its sign. -/
def signed (negative : Bool) (significand : Nat) : Int :=
  if negative then -(significand : Int) else significand

/-- `i · 2 ^ exponent`, rounded; an exact zero takes the given sign. -/
def ofScaled (zeroNegative : Bool) (i : Int) (exponent : Int) : Binary64 :=
  if i = 0 then zero zeroNegative
  else ofRatio (i < 0) (i.natAbs * 2 ^ exponent.toNat) (2 ^ (-exponent).toNat)

def add : Binary64 → Binary64 → Binary64
  | .nan, _ => .nan
  | _, .nan => .nan
  | .infinite s, .infinite t => if s = t then .infinite s else .nan
  | .infinite s, _ => .infinite s
  | _, .infinite t => .infinite t
  | .finite s m q, .finite t n r =>
    let low := min q r
    ofScaled (s && t) (signed s m * 2 ^ (q - low).toNat + signed t n * 2 ^ (r - low).toNat) low

def mul : Binary64 → Binary64 → Binary64
  | .nan, _ => .nan
  | _, .nan => .nan
  | .infinite s, b => if b.isZero then .nan else .infinite (s != b.isNegative)
  | a, .infinite t => if a.isZero then .nan else .infinite (a.isNegative != t)
  | .finite s m q, .finite t n r => ofScaled (s != t) (signed (s != t) (m * n)) (q + r)

/-- The quotient, for a divisor other than zero. -/
def div : Binary64 → Binary64 → Binary64
  | .nan, _ => .nan
  | _, .nan => .nan
  | .infinite _, .infinite _ => .nan
  | .infinite s, b => .infinite (s != b.isNegative)
  | a, .infinite t => zero (a.isNegative != t)
  | .finite s m q, .finite t n r =>
    if n = 0 then (if m = 0 then .nan else .infinite (s != t))
    else ofRatio (s != t) (m * 2 ^ (q - r).toNat) (n * 2 ^ (r - q).toNat)

/-- What a quotient rounded toward zero leaves, with the sign of the dividend, for a divisor other
than zero. It is exact. -/
def truncMod : Binary64 → Binary64 → Binary64
  | .finite s m q, .finite _ n r =>
    let low := min q r
    ofScaled s (signed s (m * 2 ^ (q - low).toNat % (n * 2 ^ (r - low).toNat))) low
  | .finite s m q, .infinite _ => .finite s m q
  | _, _ => .nan

/-- Order of two numbers; nothing is less than or equal to a NaN. -/
def le : Binary64 → Binary64 → Bool
  | .nan, _ => false
  | _, .nan => false
  | .infinite true, _ => true
  | _, .infinite false => true
  | .infinite false, _ => false
  | _, .infinite true => false
  | .finite s m q, .finite t n r =>
    let low := min q r
    signed s m * 2 ^ (q - low).toNat ≤ signed t n * 2 ^ (r - low).toNat

def lt (a b : Binary64) : Bool := le a b && !le b a

/-- Numeric equality: the two zeros are equal, a NaN is not equal to itself. -/
def numEq (a b : Binary64) : Bool := le a b && le b a

/-- The integer part of a finite value, rounded toward zero. -/
def truncate? : Binary64 → Option Int
  | .finite s m q => some (signed s (m * 2 ^ q.toNat / 2 ^ (-q).toNat))
  | _ => none

/-- The greatest integer not above a finite value. -/
def floor? : Binary64 → Option Int
  | .finite s m q => some (Int.fdiv (signed s m * 2 ^ q.toNat) (2 ^ (-q).toNat))
  | _ => none

/-- The greatest whole number not above a value. -/
def floor (x : Binary64) : Binary64 :=
  match x.floor? with
  | some i => if i = 0 then zero x.isNegative else ofInt i
  | none => x

/-- Whether a value is a whole number. -/
def isWhole : Binary64 → Bool
  | .finite _ m q => m * 2 ^ q.toNat % 2 ^ (-q).toNat == 0
  | _ => false

/-! ## Division with a remainder -/

/-- Whether a value is below zero. -/
def isBelowZero (x : Binary64) : Bool := x.isNegative && !x.isZero

/-- What a quotient rounded down leaves, with the sign of the divisor, for a divisor other than
zero. -/
def floorMod (x y : Binary64) : Binary64 :=
  let rest := truncMod x y
  if rest.isZero then zero y.isNegative
  else if y.isBelowZero != rest.isBelowZero then rest.add y
  else rest

/-- The quotient rounded down, for a divisor other than zero. It is the rounded quotient of what the
remainder leaves, taken to the nearest whole number. -/
def floorDiv (x y : Binary64) : Binary64 :=
  let rest := truncMod x y
  let quotient := (x.add rest.neg).div y
  let one := ofNat 1
  let quotient :=
    if !rest.isZero && y.isBelowZero != rest.isBelowZero then quotient.add one.neg else quotient
  if quotient.isZero then zero (x.isNegative != y.isNegative)
  else
    let low := quotient.floor
    if (ofRatio false 1 2).lt (quotient.add low.neg) then low.add one else low

end Binary64
end Pinboard.Number
