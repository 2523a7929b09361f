/-!
# Sets of characters

A character class is a list of closed ranges of code points.
-/
namespace Pinboard.Text

/-- A set of characters, as closed ranges of code points. -/
abbrev Ranges := List (Nat × Nat)

def Ranges.has (table : Ranges) (c : Char) : Bool :=
  table.any fun r => r.1 ≤ c.toNat && c.toNat ≤ r.2

theorem Ranges.has_iff {table : Ranges} {c : Char} :
    table.has c = true ↔ ∃ r ∈ table, r.1 ≤ c.toNat ∧ c.toNat ≤ r.2 := by
  simp [Ranges.has]

end Pinboard.Text
