import Pinboard.Number.Numeric
import Pinboard.Script.Value

/-!
# Equality and order of values

Numbers are compared by their value, collections by their members. A member of a collection is first
of all equal to itself, which a result that is no number is not by its value. Texts, numbers, lists
and tuples have an order, and sets the order of inclusion.
-/
namespace Pinboard.Script.Value

open Number

/-- The whole number that a value is; the truth values count as one and zero. -/
def whole? : Value → Option Int
  | .whole i => some i
  | .truth b => some (if b then 1 else 0)
  | _ => Option.none

def numeric? (v : Value) : Option Numeric :=
  match v with
  | .real x => some (.real x)
  | .notANumber _ => some (.real .nan)
  | _ => v.whole?.map .whole

/-! ## Equality -/

def equalNumbers (a b : Value) : Bool :=
  match a.numeric?, b.numeric? with
  | some m, some n => m.equal n
  | _, _ => false

mutual

/-- Equality of values; errors and calls to directives are equal to themselves alone. -/
def same : Value → Value → Bool
  | .none, .none => true
  | .text s, .text t => s == t
  | .list xs, .list ys => allSame xs ys
  | .tuple xs, .tuple ys => allSame xs ys
  | .mapping xs, .mapping ys => xs.length == ys.length && entriesAmong xs ys
  | .set _ xs, .set _ ys => xs.length == ys.length && allAmong xs ys
  | .function f, .function g => f == g
  | .method s m, .method t n => s == t && m == n
  | .directive s, .directive t => s == t
  | .pending i .., .pending j .. => i == j
  | .error i .., .error j .. => i == j
  | .errorType s, .errorType t => s == t
  | a, b => equalNumbers a b

/-- Equality of members of collections, which are equal to themselves. -/
def sameMember : Value → Value → Bool
  | .notANumber i, .notANumber j => i == j
  | a, b => same a b

def allSame : List Value → List Value → Bool
  | [], [] => true
  | x :: xs, y :: ys => sameMember x y && allSame xs ys
  | _, _ => false

def allAmong : List Value → List Value → Bool
  | [], _ => true
  | x :: xs, ys => ys.any (fun y => sameMember x y) && allAmong xs ys

def entriesAmong : List (Value × Value) → List (Value × Value) → Bool
  | [], _ => true
  | (k, v) :: xs, ys =>
    ys.any (fun (l, w) => sameMember k l && sameMember v w) && entriesAmong xs ys

end

/-! ## Order -/

mutual

/-- Whether a value is below another; none if the two have no order. -/
def below? : Value → Value → Option Bool
  | .text s, .text t => some (s < t)
  | .list xs, .list ys => firstBelow? xs ys
  | .tuple xs, .tuple ys => firstBelow? xs ys
  | .set _ xs, .set _ ys => some (xs.length < ys.length && allAmong xs ys)
  | a, b =>
    match a.numeric?, b.numeric? with
    | some m, some n => some (m.below n)
    | _, _ => Option.none

/-- Order by the first members that differ; a beginning is below the whole. -/
def firstBelow? : List Value → List Value → Option Bool
  | [], ys => some (!ys.isEmpty)
  | _, [] => some false
  | x :: xs, y :: ys => if sameMember x y then firstBelow? xs ys else below? x y

end

/-- Whether a value is below another, which two values without an order do not answer. -/
def isBelow (a b : Value) : Outcome Bool :=
  match below? a b with
  | some answer => .ok answer
  | Option.none => raised .badType "'<' not supported between instances"

/-! ## Truth and keys -/

def isTrue : Value → Bool
  | .none => false
  | .truth b => b
  | .whole i => i != 0
  | .real x => !x.isZero
  | .text s => !s.isEmpty
  | .list items => !items.isEmpty
  | .tuple items => !items.isEmpty
  | .mapping entries => !entries.isEmpty
  | .set _ items => !items.isEmpty
  | _ => true

mutual

/-- Whether a value can be a key. -/
def isKey : Value → Bool
  | .list _ => false
  | .mapping _ => false
  | .set .. => false
  | .tuple items => allKeys items
  | _ => true

def allKeys : List Value → Bool
  | [] => true
  | v :: rest => isKey v && allKeys rest

end

/-- Nothing if all values can be keys, and else an error. -/
def needKeys (values : List Value) : Outcome Unit :=
  if values.all isKey then .ok () else raised .badType "unhashable type"

end Pinboard.Script.Value
