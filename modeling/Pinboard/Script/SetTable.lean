import Pinboard.Script.Equality

/-!
# Tables of sets

A set keeps its members in a table of slots and shows them in the order of the slots. A member's
hash says at which slot the search for a place starts; a few slots in a row are tried, then the
search jumps on. A table that is three fifths full grows. Numbers and tuples of them have the same
hash in every run; where some member has none, the members stay in the order in which they came.
-/
namespace Pinboard.Script

open Number

/-! ## Hashes -/

/-- Hashes are numbers of 64 bits. -/
def hashRange : Nat := 2 ^ 64

/-- The prime modulo which numbers are hashed. -/
def hashPrime : Nat := 2 ^ 61 - 1

/-- A signed hash as a number of 64 bits; minus one is kept free. -/
def hashOfSigned (negative : Bool) (n : Nat) : Nat :=
  if negative && n != 0 then hashRange - (if n = 1 then 2 else n) else n

def hashOfWhole (i : Int) : Nat := hashOfSigned (i < 0) (i.natAbs % hashPrime)

/-- The hash of a real number: its value modulo the prime, where two has the inverse `2 ^ 60`. -/
def hashOfReal? : Binary64 → Option Nat
  | .nan => none
  | .infinite s => some (hashOfSigned s 314159)
  | .finite s m q =>
    let power := if 0 ≤ q then 2 ^ (q.toNat % 61) else 2 ^ ((61 - (-q).toNat % 61) % 61)
    some (hashOfSigned s (m % hashPrime * power % hashPrime))

/-- A step of the hash of a tuple. -/
def mixHash (acc lane : Nat) : Nat :=
  let acc := (acc + lane * 14029467366897019727) % hashRange
  let turned := (acc * 2 ^ 31 + acc / 2 ^ 33) % hashRange
  turned * 11400714785074694791 % hashRange

/-- The hash of a tuple from those of its members. -/
def hashOfTuple (lanes : List Nat) : Nat :=
  let acc := lanes.foldl mixHash 2870177450012600261
  let acc := (acc + Nat.xor lanes.length (Nat.xor 2870177450012600261 3527539)) % hashRange
  if acc = hashRange - 1 then 1546275796 else acc

mutual

/-- The hash of a value, if it is the same in every run. -/
def Value.hash? : Value → Option Nat
  | .truth b => some (if b then 1 else 0)
  | .whole i => some (hashOfWhole i)
  | .real x => hashOfReal? x
  | .text s => if s.isEmpty then some 0 else none
  | .tuple items => (hashesOf? items).map hashOfTuple
  | _ => none

def hashesOf? : List Value → Option (List Nat)
  | [] => some []
  | v :: rest => do
    let h ← v.hash?
    return h :: (← hashesOf? rest)

end

/-! ## Tables -/

/-- A member with its hash. -/
structure Entry where
  hash : Nat
  value : Value

structure SetTable where
  /-- The slots, a power of two of them. -/
  slots : Array (Option Entry)
  used : Nat

namespace SetTable

def empty (room : Nat) : SetTable := ⟨Array.replicate room none, 0⟩

/-- How many slots in a row are tried after the first. -/
def reach : Nat := 9

/-- The first slot of a search that stops it. The fuel bounds the jumps; a jump soon depends on the
slot alone, and then all slots are met. -/
def search (stops : Nat → Bool) (room : Nat) : Nat → Nat → Nat → Nat
  | 0, slot, _ => slot
  | fuel + 1, slot, rest =>
    let near := if slot + reach < room then reach + 1 else 1
    match (List.range near).find? fun k => stops (slot + k) with
    | some k => slot + k
    | none => search stops room fuel ((slot * 5 + 1 + rest / 32) % room) (rest / 32)

/-- The slot where a member is, or where it can be put. -/
def slotFor (t : SetTable) (hash : Nat) (isMember : Value → Bool) : Nat :=
  let room := t.slots.size
  let stops (slot : Nat) : Bool :=
    match t.slots[slot]? with
    | some (some e) => e.hash == hash && isMember e.value
    | _ => true
  search stops room (room + 64) (hash % room) hash

/-- Put a new member into a table that has room for it. -/
def place (t : SetTable) (e : Entry) : SetTable :=
  let slot := t.slotFor e.hash fun _ => false
  ⟨t.slots.setIfInBounds slot (some e), t.used + 1⟩

def entries (t : SetTable) : List Entry := t.slots.toList.filterMap id

/-- The least power of two from eight on that is above a number. -/
def roomAbove (n : Nat) : Nat := max 8 (n + 1).nextPowerOfTwo

/-- The same members in a table with more slots than a number says. -/
def resize (t : SetTable) (least : Nat) : SetTable :=
  t.entries.foldl place (empty (roomAbove least))

/-- Whether a table with a number of members has to grow. -/
def isFull (t : SetTable) (members : Nat) : Bool := (t.slots.size - 1) * 3 ≤ members * 5

/-- Put a member into a table that may hold it already. -/
def insert (t : SetTable) (e : Entry) : SetTable :=
  let slot := t.slotFor e.hash (Value.sameMember · e.value)
  match t.slots[slot]? with
  | some none =>
    let t : SetTable := ⟨t.slots.setIfInBounds slot (some e), t.used + 1⟩
    if t.isFull t.used then t.resize (if 50000 < t.used then t.used * 2 else t.used * 4) else t
  | _ => t

/-- A table that is ready to take a number of members at once. -/
def ready (members : Nat) : SetTable :=
  let t := empty 8
  if t.isFull members then t.resize (members * 2) else t

end SetTable

namespace Value

/-- Values with their hashes, if all have one. -/
def hashed? (values : List Value) : Option (List Entry) :=
  (hashesOf? values).map fun hs => (hs.zip values).map fun (h, v) => ⟨h, v⟩

/-- Values in the order in which they came, each once. -/
def distinct (values : List Value) : List Value :=
  (values.foldl (fun found v => if found.any (sameMember v) then found else v :: found) []).reverse

def ofTable (t : SetTable) : Value := .set t.slots.size (t.entries.map (·.value))

/-- The set of values that come one after the other, in a table that is ready for some. -/
def setFrom (start : SetTable) (values : List Value) : Value :=
  match hashed? values with
  | some entries => ofTable (entries.foldl SetTable.insert start)
  | Option.none => .set 8 (distinct values)

/-- The set of the members of a collection. A set of the room that it would be given is copied as it
stands. -/
def toSet (source : Value) (values : List Value) : Outcome Value := do
  needKeys values
  match source with
  | .set room _ =>
    let t := SetTable.ready values.length
    if t.slots.size = room then return source
    match hashed? values with
    | some entries => return ofTable (entries.foldl SetTable.place t)
    | Option.none => return source
  | .mapping _ => return setFrom (SetTable.ready values.length) values
  | _ => return setFrom (SetTable.empty 8) values

end Value
end Pinboard.Script
