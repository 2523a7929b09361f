import Pinboard.Number.Decimal
import Pinboard.Text.Basic

/-!
# Reading whole numbers

A whole number in a base from 2 to 36, with an optional sign and blanks around it. Single
underscores may stand between digits, decimal digits are those of any script, and a mark such as
`0x` may name the base.
-/
namespace Pinboard.Number

/-- Why a text is no whole number. -/
inductive NumeralFault where
  | malformed
  /-- It has more digits than are read. -/
  | tooLong (digits : Nat)
  deriving DecidableEq, Repr

/-- The value of a digit or of a letter that is used as one. -/
def digitValue? (c : Char) : Option Nat :=
  (Text.decimalValue? c).or
    (if 'a' ≤ c ∧ c ≤ 'z' then some (c.toNat - 87)
    else if 'A' ≤ c ∧ c ≤ 'Z' then some (c.toNat - 55)
    else none)

def digitBelow? (base : Nat) (c : Char) : Option Nat := (digitValue? c).filter (· < base)

/-- The digits at the front and what follows; none if an underscore does not stand before a
digit. -/
def takeRow? (base : Nat) : List Char → Option (List Nat × List Char)
  | [] => some ([], [])
  | c :: cs =>
    match digitBelow? base c with
    | some d => (takeRow? base cs).map fun (ds, rest) => (d :: ds, rest)
    | none =>
      if c = '_' then
        if (cs.head?.bind (digitBelow? base)).isSome then takeRow? base cs else none
      else some ([], c :: cs)

/-- The base that the letter of a mark names. -/
def markedBase? (c : Char) : Option Nat :=
  if c = 'x' ∨ c = 'X' then some 16
  else if c = 'o' ∨ c = 'O' then some 8
  else if c = 'b' ∨ c = 'B' then some 2
  else none

/-- Drop an underscore at the front. -/
def dropUnderscore : List Char → List Char
  | '_' :: cs => cs
  | cs => cs

/-- The base of a number and what follows its mark. Base zero stands for the one that is marked,
which is ten without a mark. -/
def takeBase (base : Nat) (cs : List Char) : Nat × List Char :=
  let unmarked := (if base = 0 then 10 else base, cs)
  match cs with
  | '0' :: c :: rest =>
    match markedBase? c with
    | some b => if base = b ∨ base = 0 then (b, dropUnderscore rest) else unmarked
    | none => unmarked
  | _ => unmarked

/-- Whether numbers in a base may have any number of digits. -/
def isUnlimited (base : Nat) : Bool := [2, 4, 8, 16, 32].contains base

def ofDigitsIn (base : Nat) (ds : List Nat) : Nat := ds.foldl (fun n d => base * n + d) 0

/-- Read a whole number in a base. Where the base is open and not marked, only zero starts with a
zero. -/
def readWhole (base : Nat) (s : List Char) : Except NumeralFault Int :=
  let (negative, body) := takeSign (Text.stripOf Text.isSpace s)
  let (inner, cs) := takeBase base body
  match if cs.head? = some '_' then none else takeRow? inner cs with
  | none => .error .malformed
  | some (ds, rest) =>
    if !isUnlimited inner && digitLimit < ds.length then .error (.tooLong ds.length)
    else
      let n := ofDigitsIn inner ds
      if ds.isEmpty || !rest.isEmpty then .error .malformed
      else if base = 0 ∧ inner = 10 ∧ ds.head? = some 0 ∧ n ≠ 0 then .error .malformed
      else .ok (if negative then -(n : Int) else n)

end Pinboard.Number
