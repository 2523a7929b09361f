import Pinboard.Script.Collection
import Pinboard.Script.Tree

/-!
# Arithmetic of scripts

Whole numbers are exact. A real number takes part with the real number next to the other operand,
which has to be in range. Texts, lists and tuples are joined by a plus sign and repeated by a
product.
-/
namespace Pinboard.Script

open Number

namespace Value

def badOperand {α : Type} : Outcome α := raised .badType "unsupported operand type(s)"

/-- A number as a real one; a whole number may be too large. -/
def asReal (n : Numeric) : Outcome Binary64 :=
  match n with
  | .real x => .ok x
  | .whole i =>
    if n.toReal.isFinite then .ok (.ofInt i)
    else raised .overflow "int too large to convert to float"

/-- An operation on two numbers, on whole ones if both are whole. -/
def arithmetic (wholes : Int → Int → Outcome Value)
    (reals : Binary64 → Binary64 → Outcome Binary64) (a b : Value) : Op Value :=
  match a.numeric?, b.numeric? with
  | some (.whole i), some (.whole j) => wholes i j
  | some m, some n => do
    let x ← asReal m
    let y ← asReal n
    ofReal (← reals x y)
  | _, _ => badOperand (α := Value)

/-! ## Sums -/

def plus : Value → Value → Op Value
  | .text s, .text t => return .text (s ++ t)
  | .list xs, .list ys => return .list (xs ++ ys)
  | .tuple xs, .tuple ys => return .tuple (xs ++ ys)
  | a, b => arithmetic (fun i j => .ok (.whole (i + j))) (fun x y => .ok (x.add y)) a b

def minus (a b : Value) : Op Value :=
  arithmetic (fun i j => .ok (.whole (i - j))) (fun x y => .ok (x.add y.neg)) a b

def negate (v : Value) : Op Value :=
  match v.numeric? with
  | some (.whole i) => return .whole (-i)
  | some (.real x) => ofReal x.neg
  | Option.none => badOperand (α := Value)

/-! ## Products -/

/-- Values that take more bytes than this are not made. -/
def memoryLimit : Nat := 2 ^ 34

def outOfMemory {α : Type} : Outcome α := .error ⟨.memory, [], Option.none⟩

/-- The bytes that each character of a text takes. -/
def bytesEach (s : String) : Nat :=
  let widest := s.foldl (fun n c => max n c.toNat) 0
  if widest < 0x100 then 1 else if widest < 0x10000 then 2 else 4

/-- A text repeated, by doubling. -/
def repeatText (s : String) (times : Nat) : String :=
  if times = 0 then ""
  else
    let half := repeatText s (times / 2)
    if times % 2 = 0 then half ++ half else half ++ half ++ s
termination_by times

/-- A list repeated. -/
def repeatList {β : Type} (xs : List β) (times : Nat) : List β := (List.replicate times xs).flatten

/-- The members of a row repeated a number of times. -/
def repeatItems (items : List Value) (times : Nat) : Outcome (List Value) :=
  if times ≤ 1 ∨ items.length * times * 8 ≤ memoryLimit then .ok (repeatList items times)
  else if items.isEmpty then .ok []
  else outOfMemory

/-- A text, list or tuple repeated; a number below zero counts as zero. -/
def repeated (row : Value) (times : Int) : Outcome Value :=
  let n := times.toNat
  if !isIndex times then raised .overflow "cannot fit 'int' into an index-sized integer"
  else
    match row with
    | .text s =>
      if s.isEmpty ∨ n ≤ 1 then .ok (.text (repeatText s (min n 1)))
      else if indexLimit ≤ n * s.length then raised .overflow "repeated string is too long"
      else if memoryLimit < n * s.length * bytesEach s then outOfMemory
      else .ok (.text (repeatText s n))
    | .list items => (repeatItems items n).map .list
    | .tuple items => (repeatItems items n).map .tuple
    | _ => badOperand

def isRow : Value → Bool
  | .text _ => true
  | .list _ => true
  | .tuple _ => true
  | _ => false

def times (a b : Value) : Op Value :=
  if a.isRow then
    match b.whole? with
    | some n => repeated a n
    | Option.none => badOperand (α := Value)
  else if b.isRow then
    match a.whole? with
    | some n => repeated b n
    | Option.none => badOperand (α := Value)
  else arithmetic (fun i j => .ok (.whole (i * j))) (fun x y => .ok (x.mul y)) a b

/-! ## Quotients -/

def zeroDivisor {α : Type} : Outcome α := raised .zeroDivision "division by zero"

/-- An operation on real numbers that has no result for a zero divisor. -/
def byNonZero (f : Binary64 → Binary64 → Binary64) (x y : Binary64) : Outcome Binary64 :=
  if y.isZero then zeroDivisor else .ok (f x y)

/-- The quotient of two whole numbers as a real one. -/
def quotient (i j : Int) : Outcome Value :=
  let x := Binary64.ofRatio ((i < 0) != (j < 0)) i.natAbs j.natAbs
  if j = 0 then zeroDivisor
  else if x.isFinite then .ok (.real x)
  else raised .overflow "integer division result too large for a float"

def divide (a b : Value) : Op Value := arithmetic quotient (byNonZero Binary64.div) a b

def floorDivide (a b : Value) : Op Value :=
  arithmetic (fun i j => if j = 0 then zeroDivisor else .ok (.whole (Int.fdiv i j)))
    (byNonZero Binary64.floorDiv) a b

def remainder (a b : Value) : Op Value :=
  arithmetic (fun i j => if j = 0 then zeroDivisor else .ok (.whole (Int.fmod i j)))
    (byNonZero Binary64.floorMod) a b

end Value
end Pinboard.Script
