import Pinboard.Directive.Basic
import Pinboard.Directive.Description

/-!
# Declaring directives

A directive that is declared from data has to have a name that can be one, and a known kind. One
that is declared with its documentation is described by it.
-/
namespace Pinboard

open Markup Record

variable {σ : Type}

/-- How a directive is called, and its kind. -/
structure Identity where
  name : String
  aliases : List String
  kind : Kind
  deriving DecidableEq, Repr

namespace Identity

def read : Reader Identity := recordOf fun data =>
  Identity.mk <$> required "name" Directive.nameReader data
    <*> defaulted "aliases" [] (listOf text) data
    <*> defaulted "kind" .static (choice Kind.names) data

/-- A directive with this identity. -/
def directive (i : Identity) (handler : Handler σ) : Directive σ where
  name := i.name
  aliases := i.aliases
  description := ""
  example_ := ""
  kind := i.kind
  constant := false
  eager := false
  rules := []
  handler := handler

end Identity

/-- The kind that a name stands for. -/
def Kind.ofName (name : String) : Except Fault Kind :=
  match (Kind.names.find? fun (n, _) => n == name) with
  | some (_, kind) => .ok kind
  | none => .error (.unknownKind name)

namespace Directive

/-- Mark a name as an occurrence without parameters and body. -/
def bareExample (name : String) : String := openMarker ++ name ++ closeMarker

/-- A directive described by its documentation, which may not be missing. An empty example stands
for the bare occurrence. -/
def documented (name : String) (aliases : List String) (kind : Kind) (doc : Option String)
    (usage : String) (handler : Handler σ) : Except Fault (Directive σ) :=
  let doc := doc.getD ""
  if doc.isEmpty then .error (.undocumented name)
  else
    match Checked.under (.field "name") (nameReader (.str name)) with
    | .failed faults => .error (.invalid "Directive" faults)
    | .ok name =>
      .ok
        { (Identity.mk name aliases kind).directive handler with
          description := describe doc
          example_ := if usage.isEmpty then bareExample name else usage }

end Directive
end Pinboard
