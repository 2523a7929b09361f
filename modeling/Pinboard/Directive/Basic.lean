import Pinboard.Action
import Pinboard.Context
import Pinboard.Markup.Invocation

/-!
# Directives

A directive is named by its spellings, placed in the order of resolution by its kind, and run by its
handler. Its rules decide where it applies.
-/
namespace Pinboard

open Markup Record

/-- What kind of effect a directive has, which decides when it is resolved. -/
inductive Kind where
  /-- Substitutes a value and has no effect. -/
  | informational
  /-- Has an effect that needs no interaction. -/
  | static
  /-- Talks to the user or changes pins and groups. -/
  | interactive
  | script
  deriving DecidableEq, Repr

def Kind.names : List (String × Kind) :=
  [("informational", .informational), ("static_directive", .static),
    ("interactive_directive", .interactive), ("script", .script)]

def Kind.name : Kind → String
  | .informational => "informational"
  | .static => "static_directive"
  | .interactive => "interactive_directive"
  | .script => "script"

/-- What a handler answers. -/
inductive Reply where
  /-- A value, substituted as it is displayed, null as nothing. -/
  | value (v : Json)
  /-- Text to substitute and values for the context of all that follows. -/
  | named (text : String) (outputs : Fields String)

namespace Reply

def ofText (s : String) : Reply := .value (.str s)

def nothing : Reply := ofText ""

/-- The text that takes the place of the occurrence. -/
def text : Reply → String
  | .value .null => ""
  | .value v => v.display
  | .named s _ => s

def outputs : Reply → Fields String
  | .value _ => []
  | .named _ outputs => outputs

/-- A reply with named outputs as data. -/
def read : Reader Reply := recordOf fun data =>
  Reply.named <$> defaulted "result" "" Record.text data
    <*> defaulted "named_outputs" [] (mappingOf Record.text) data

def toJson : Reply → Json
  | .value v => v
  | .named s outputs =>
    .obj [("result", .str s), ("named_outputs", .obj (outputs.map fun (k, v) => (k, .str v)))]

end Reply

/-- A way back into the resolver that runs a handler. -/
structure Reentry (σ : Type) where
  /-- Resolve a text. -/
  resolve : String → Context → Action σ String
  /-- Run one directive, given by its name, on an occurrence. -/
  invoke : String → Occurrence → Context → Action σ String
  /-- The spellings of the directives that scripts may call, with the names of the directives. -/
  callable : Fields String

/-- A read-only check whether a directive applies to the text of an occurrence. -/
structure Rule (σ : Type) where
  name : String
  check : String → Context → Action σ Bool

abbrev Handler (σ : Type) := Occurrence → Context → Option (Reentry σ) → Action σ Reply

structure Directive (σ : Type) where
  name : String
  aliases : List String
  description : String
  example_ : String
  kind : Kind
  /-- Equal occurrences give equal results within one pass. -/
  constant : Bool
  /-- Resolved before all others, so that its body is taken verbatim. -/
  eager : Bool
  rules : List (Rule σ)
  handler : Handler σ

namespace Directive

variable {σ : Type}

/-- The name followed by the aliases. -/
def spellings (d : Directive σ) : List String := d.name :: d.aliases

/-- The place in the order of resolution. Eager directives come first, then informational ones whose
values are constant, static and interactive ones, live readings, which observe their effects, and
scripts, which may call all others. -/
def rank (d : Directive σ) : Nat :=
  if d.eager then 0
  else match d.kind with
    | .informational => if d.constant then 1 else 4
    | .static => 2
    | .interactive => 3
    | .script => 5

/-- Ranks are below this. -/
def rankBound : Nat := 6

theorem rank_lt (d : Directive σ) : d.rank < rankBound := by
  unfold rank rankBound
  split
  · decide
  · split
    · split <;> decide
    all_goals decide

/-- Whether a name can be a directive's: a letter or underscore, then letters, numerals and
underscores. -/
def isName (s : String) : Bool :=
  match s.toList with
  | [] => false
  | c :: cs => (Text.isLetter c || c == '_') && cs.all Text.isWord

/-- The reader of directive names. -/
def nameReader : Reader String := fun v =>
  (text v).andThen fun s => if isName s then .ok s else .refuse v .badName

end Directive
end Pinboard
