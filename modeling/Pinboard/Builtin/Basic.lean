import Pinboard.Directive.Basic
import Pinboard.Services

/-!
# Building directives

The parts that the built-in directives share: a descriptor with everything left out that a directive
does not need, and the look-up of pins and groups that a text refers to.
-/
namespace Pinboard.Builtin

open Markup

variable {σ : Type}

/-- Text between markers. -/
def marked (s : String) : String := openMarker ++ s ++ closeMarker

/-- A directive of a kind, without aliases and rules. -/
def directive (kind : Kind) (name description : String) (handler : Handler σ) : Directive σ where
  name := name
  aliases := []
  description := description
  example_ := marked name
  kind := kind
  constant := false
  eager := false
  rules := []
  handler := handler

/-- A directive whose value is constant in one resolution. -/
def constant (name description : String) (handler : Handler σ) : Directive σ :=
  { directive .informational name description handler with constant := true }

/-- A reply that also becomes a value of the context. -/
def remembered (name value : String) : Reply := .named value [(name, value)]

/-- A reply that becomes a value of the context unless parameters shaped it. -/
def rememberedUnlessShaped (m : Occurrence) (name value : String) : Reply :=
  .named value (if m.params.isEmpty then [(name, value)] else [])

/-- The first stored pin that a text names. -/
def findPin (services : Services σ) (ref : String) : Action σ (Option Pin) := do
  pure ((← services.pins.list).find? (·.isNamed ref))

/-- The first stored group that a text names. -/
def findGroup (services : Services σ) (ref : String) : Action σ (Option Group) := do
  pure ((← services.groups.list).find? (·.isNamed ref))

/-- The body without blanks at its ends. -/
def reference (m : Occurrence) : String := Text.strip m.bodyText

/-- A parameter, if it is there and not empty. -/
def givenParam? (m : Occurrence) (key : String) : Option String :=
  let value := m.paramText key
  if value.isEmpty then none else some value

end Pinboard.Builtin
