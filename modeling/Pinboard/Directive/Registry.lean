import Pinboard.Directive.Basic

/-!
# Registries

A registry is a list of directives in which no spelling occurs twice. It keeps the order of
registration and knows the order of resolution, which sorts by rank and leaves directives of one
rank in the order of registration.
-/
namespace Pinboard

variable {σ : Type}

/-- A spelling that two directives, or one twice, lay claim to. -/
structure Duplicate where
  spelling : String
  existing : String
  duplicate : String
  deriving DecidableEq, Repr

def Duplicate.message (d : Duplicate) : String :=
  "Directive spelling '" ++ d.spelling ++ "' already registered.\n  Existing: " ++ d.existing
    ++ "\n  Duplicate: " ++ d.duplicate
    ++ "\nEach directive name and alias must be unique."

/-- Every spelling with the name of the directive that claims it, in the order of registration. -/
def claims (directives : List (Directive σ)) : Fields String :=
  directives.flatMap fun d => d.spellings.map fun s => (s, d.name)

/-- The first claim to a spelling that is already taken. -/
def firstDuplicate? (taken : Fields String) : Fields String → Option Duplicate
  | [] => none
  | (spelling, name) :: rest =>
    match taken.get? spelling with
    | some existing => some ⟨spelling, existing, name⟩
    | none => firstDuplicate? (taken ++ [(spelling, name)]) rest

structure Registry (σ : Type) where
  directives : List (Directive σ)
  distinct : firstDuplicate? [] (claims directives) = none

namespace Registry

def ofList (directives : List (Directive σ)) : Except Duplicate (Registry σ) :=
  match h : firstDuplicate? [] (claims directives) with
  | none => .ok ⟨directives, h⟩
  | some d => .error d

def size (r : Registry σ) : Nat := r.directives.length

def names (r : Registry σ) : List String := r.directives.map (·.name)

/-- The directive that a name or alias belongs to. -/
def get? (r : Registry σ) (spelling : String) : Option (Directive σ) :=
  r.directives.find? fun d => d.spellings.contains spelling

def contains (r : Registry σ) (spelling : String) : Bool := (r.get? spelling).isSome

/-- Directives by rank, those of one rank in their order. -/
def byRank (directives : List (Directive σ)) : List (Directive σ) :=
  (List.range Directive.rankBound).flatMap fun rank => directives.filter (·.rank == rank)

/-- The order of resolution. -/
def ordered (r : Registry σ) : List (Directive σ) := byRank r.directives

/-- All directives but those of some kinds. -/
def without (r : Registry σ) (kinds : List Kind) : Except Duplicate (Registry σ) :=
  ofList (r.directives.filter fun d => !kinds.contains d.kind)

/-- The registry with further directives after its own. -/
def extended (r : Registry σ) (directives : List (Directive σ)) : Except Duplicate (Registry σ) :=
  ofList (r.directives ++ directives)

end Registry
end Pinboard
