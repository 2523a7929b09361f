import Pinboard.Fields
import Pinboard.Number.Numeric

/-!
# JSON values

Whole numbers and floating-point numbers are told apart. An object keeps the order of its keys.
-/
namespace Pinboard

inductive Json where
  | null
  | bool (value : Bool)
  | int (value : Int)
  | real (value : Number.Binary64)
  | str (value : String)
  | arr (items : List Json)
  | obj (fields : List (String × Json))
  deriving Inhabited, Repr

namespace Json

instance : Coe String Json := ⟨.str⟩

def ofStrings (items : List String) : Json := .arr (items.map .str)

def ofNat (n : Nat) : Json := .int n

def ofOption {α : Type} (f : α → Json) : Option α → Json
  | none => .null
  | some a => f a

/-- The value under a key of an object. -/
def get? (key : String) : Json → Option Json
  | .obj fields => Fields.get? key fields
  | _ => none

def string? : Json → Option String
  | .str s => some s
  | _ => none

def items? : Json → Option (List Json)
  | .arr items => some items
  | _ => none

def fields? : Json → Option (Fields Json)
  | .obj fields => some fields
  | _ => none

def isNull : Json → Bool
  | .null => true
  | _ => false

/-- Whether a value is something: no null, no zero, nothing empty. -/
def isTrue : Json → Bool
  | .null => false
  | .bool b => b
  | .int i => i != 0
  | .real x => !x.isZero
  | .str s => !s.isEmpty
  | .arr items => !items.isEmpty
  | .obj fields => !fields.isEmpty

/-! ## Equality -/

/-- The number that a value is; the truth values count as one and zero. -/
def numeric? : Json → Option Number.Numeric
  | .int i => some (.whole i)
  | .real x => some (.real x)
  | .bool b => some (.whole (if b then 1 else 0))
  | _ => none

def ofNumeric : Number.Numeric → Json
  | .whole i => .int i
  | .real x => .real x

mutual

/-- Equality of values: numbers by their value, objects without regard to the order of their
keys. -/
def same : Json → Json → Bool
  | .null, .null => true
  | .str s, .str t => s == t
  | .arr xs, .arr ys => allSame xs ys
  | .obj xs, .obj ys => xs.length == ys.length && fieldsAmong xs ys
  | a, b =>
    match a.numeric?, b.numeric? with
    | some m, some n => m.equal n
    | _, _ => false

def allSame : List Json → List Json → Bool
  | [], [] => true
  | x :: xs, y :: ys => same x y && allSame xs ys
  | _, _ => false

def fieldsAmong : List (String × Json) → List (String × Json) → Bool
  | [], _ => true
  | (k, v) :: xs, ys =>
    (match Fields.get? k ys with
      | some w => same v w
      | none => false) && fieldsAmong xs ys

end

end Json
end Pinboard
