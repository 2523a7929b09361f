import Pinboard.Script.Equality

/-!
# Sorting

Values are sorted by keys. A run at the front that is in order, or strictly in reverse order, is
taken as it stands, and each further value is put in its place by halving; long rows are merged.
Which keys meet matters where some have no order, or none that is consistent.
-/
namespace Pinboard.Script

/-- A value with the key by which it is sorted. -/
structure Keyed where
  key : Value
  value : Value

namespace Keyed

def isBelow (a b : Keyed) : Outcome Bool := a.key.isBelow b.key

/-- The part at the front in which each key after `last` is below the one before it, or in which
none is, and what follows. -/
def takeRun (descending : Bool) (last : Keyed) : List Keyed → Outcome (List Keyed × List Keyed)
  | [] => .ok ([], [])
  | k :: rest => do
    if (← k.isBelow last) = descending then
      let (run, rest) ← takeRun descending k rest
      return (k :: run, rest)
    else return ([], k :: rest)

/-- The run at the front in ascending order, and what follows. -/
def firstRun : List Keyed → Outcome (List Keyed × List Keyed)
  | a :: b :: rest => do
    let descending ← b.isBelow a
    let (run, rest) ← takeRun descending b rest
    let all := a :: b :: run
    return (if descending then all.reverse else all, rest)
  | row => .ok (row, [])

/-- Where a key goes in a sorted row, between two positions; behind keys that it is not below. The
fuel is the distance of the positions. -/
def placeFor (k : Keyed) (row : Array Keyed) : Nat → Nat → Nat → Outcome Nat
  | 0, low, _ => .ok low
  | fuel + 1, low, high =>
    if low < high then do
      let middle := low + (high - low) / 2
      match row[middle]? with
      | some m =>
        if ← k.isBelow m then placeFor k row fuel low middle
        else placeFor k row fuel (middle + 1) high
      | none => return low
    else .ok low

def insert (row : Array Keyed) (k : Keyed) : Outcome (Array Keyed) := do
  let at_ ← placeFor k row row.size 0 row.size
  return row.insertIdxIfInBounds at_ k

/-- Rows of this length or longer are merged. -/
def longRow : Nat := 64

/-- Two sorted rows as one; of equal keys those of the first come first. -/
def merge : Nat → List Keyed → List Keyed → Outcome (List Keyed)
  | _, [], bs => .ok bs
  | _, as, [] => .ok as
  | 0, as, bs => .ok (as ++ bs)
  | fuel + 1, a :: as, b :: bs => do
    if ← b.isBelow a then return b :: (← merge fuel (a :: as) bs)
    else return a :: (← merge fuel as (b :: bs))

def sortShort (row : List Keyed) : Outcome (List Keyed) := do
  let (run, rest) ← firstRun row
  return (← rest.foldlM insert run.toArray).toList

/-- A row in ascending order of its keys, equal ones in their order. The fuel bounds the
halvings. -/
def sort : Nat → List Keyed → Outcome (List Keyed)
  | 0, row => sortShort row
  | fuel + 1, row => do
    if row.length < longRow then sortShort row
    else
      let half := row.length / 2
      merge row.length (← sort fuel (row.take half)) (← sort fuel (row.drop half))

end Keyed

/-- Values in the order of their keys, ascending or descending, those with equal keys in their
order. -/
def sortedBy (descending : Bool) (row : List Keyed) : Outcome (List Value) := do
  if descending then return ((← Keyed.sort row.length row.reverse).reverse).map (·.value)
  else return (← Keyed.sort row.length row).map (·.value)

end Pinboard.Script
