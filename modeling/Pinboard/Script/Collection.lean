import Pinboard.Script.SetTable

/-!
# Collections

The members of collections, and look-up by position and by key. Positions that are negative count
from the end; a position is an integer of 64 bits.
-/
namespace Pinboard.Script

/-- One more than the greatest position. -/
def indexLimit : Int := 2 ^ 63

/-- Whether a whole number can be a position. -/
def isIndex (i : Int) : Bool := -indexLimit ≤ i && i < indexLimit

namespace Value

/-- The members of a collection, the keys of a mapping, the characters of a text. -/
def members : Value → Outcome (List Value)
  | .list items => .ok items
  | .tuple items => .ok items
  | .set _ items => .ok items
  | .mapping entries => .ok (entries.map (·.1))
  | .text s => .ok (s.toList.map fun c => .text c.toString)
  | _ => raised .badType "object is not iterable"

/-- Put a value under a key, in the place of an equal key if there is one. -/
def withEntry (key value : Value) : List (Value × Value) → List (Value × Value)
  | [] => [(key, value)]
  | (k, v) :: rest =>
    if sameMember k key then (k, value) :: rest else (k, v) :: withEntry key value rest

/-- The entries of a mapping from keys and values in order. -/
def merged (entries : List (Value × Value)) : List (Value × Value) :=
  entries.foldl (fun found (k, v) => withEntry k v found) []

/-- A mapping from keys and values in order. -/
def mappingOf (entries : List (Value × Value)) : Outcome Value := do
  needKeys (entries.map (·.1))
  return .mapping (merged entries)

/-- A position in a row of some length, if an index is one. -/
def position? (length : Nat) (index : Int) : Option Nat :=
  let i := if index < 0 then index + length else index
  if 0 ≤ i ∧ i < length then some i.toNat else Option.none

/-- A position that an index says; an index has to be a whole number. -/
def positionOf (length : Nat) (index : Value) : Outcome Nat :=
  match index.whole? with
  | Option.none => raised .badType "indices must be integers"
  | some i =>
    match position? length i with
    | some n => .ok n
    | Option.none => raised .badIndex "index out of range"

/-- A member by its position. -/
def memberAt (items : List Value) (index : Value) : Outcome Value := do
  let n ← positionOf items.length index
  return items[n]?.getD .none

/-- The value under a key. -/
def valueUnder (entries : List (Value × Value)) (key : Value) : Outcome Value := do
  needKeys [key]
  match entries.find? fun (k, _) => sameMember k key with
  | some (_, v) => return v
  | Option.none => throw ⟨.badKey, [key], Option.none⟩

/-- A member by position or by key. -/
def item (base index : Value) : Outcome Value :=
  match base with
  | .list items => memberAt items index
  | .tuple items => memberAt items index
  | .text s => memberAt (s.toList.map fun c => .text c.toString) index
  | .mapping entries => valueUnder entries index
  | _ => raised .badType "object is not subscriptable"

/-- A collection with one member replaced, or one entry put in. -/
def withItem (base index value : Value) : Outcome Value :=
  match base with
  | .mapping entries => do
    needKeys [index]
    return .mapping (withEntry index value entries)
  | .list items => do
    let n ← positionOf items.length index
    return .list (items.set n value)
  | _ => raised .badType "object does not support item assignment"

def length : Value → Outcome Value
  | .text s => .ok (.whole s.length)
  | .list items => .ok (.whole items.length)
  | .tuple items => .ok (.whole items.length)
  | .set _ items => .ok (.whole items.length)
  | .mapping entries => .ok (.whole entries.length)
  | _ => raised .badType "object has no len()"

end Value
end Pinboard.Script
