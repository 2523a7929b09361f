import Pinboard.Json.Display
import Pinboard.Time.Iso

/-!
# Checked data

Reading a record from data collects every fault of its fields, in the order of the fields, each with
the path that leads to it and with what was found there. A record is built only if there is none.
-/
namespace Pinboard.Record

/-- A step into data: a field of a record or an item of a list. -/
inductive Step where
  | field (name : String)
  | item (index : Nat)
  deriving DecidableEq, Repr

/-- Why a field is refused. -/
inductive FieldCause where
  | missing
  | notText
  | notWhole
  | wholeUnreadable
  /-- A whole number beyond the size that is read. -/
  | wholeTooLarge
  | notWholeReal
  | notFinite
  | notReal
  | realUnreadable
  | notTruth
  | truthUnreadable
  | notList
  | notMapping
  | notRecord
  | notMoment
  | momentUnreadable (why : Time.DateFault)
  | momentOutOfRange (why : Time.DateFault)
  | noChoice (choices : List String)
  | belowMinimum (bound : Nat)
  | notAbove (bound : Nat)
  | aboveMaximum (bound : Nat)
  | badName
  deriving DecidableEq, Repr

/-- The word by which programs tell causes apart. -/
def FieldCause.code : FieldCause → String
  | .missing => "missing"
  | .notText => "string_type"
  | .notWhole => "int_type"
  | .wholeUnreadable => "int_parsing"
  | .wholeTooLarge => "int_parsing_size"
  | .notWholeReal => "int_from_float"
  | .notFinite => "finite_number"
  | .notReal => "float_type"
  | .realUnreadable => "float_parsing"
  | .notTruth => "bool_type"
  | .truthUnreadable => "bool_parsing"
  | .notList => "list_type"
  | .notMapping => "dict_type"
  | .notRecord => "model_type"
  | .notMoment => "datetime_type"
  | .momentUnreadable _ => "datetime_from_date_parsing"
  | .momentOutOfRange _ => "datetime_parsing"
  | .noChoice _ => "enum"
  | .belowMinimum _ => "greater_than_equal"
  | .notAbove _ => "greater_than"
  | .aboveMaximum _ => "less_than_equal"
  | .badName => "value_error"

/-- What was found in the place of a field: its text, and the word for its kind. -/
structure Found where
  text : String
  kind : String
  deriving DecidableEq, Repr

def Found.of (data : Json) : Found := ⟨data.shown, data.kind⟩

structure FieldFault where
  path : List Step
  cause : FieldCause
  found : Found
  deriving DecidableEq, Repr

/-- A value, or every fault found on the way to it. -/
inductive Checked (α : Type) where
  | ok (value : α)
  | failed (faults : List FieldFault)
  deriving DecidableEq, Repr

namespace Checked

variable {α β : Type}

def map (f : α → β) : Checked α → Checked β
  | .ok a => .ok (f a)
  | .failed e => .failed e

/-- Apply a checked function to a checked value; the faults of both are kept, in order. -/
def seq (f : Checked (α → β)) (x : Unit → Checked α) : Checked β :=
  match f, x () with
  | .ok f, .ok a => .ok (f a)
  | .failed e, .ok _ => .failed e
  | .ok _, .failed e => .failed e
  | .failed e, .failed e' => .failed (e ++ e')

instance : Functor Checked where
  map := map

instance : Applicative Checked where
  pure := .ok
  seq := seq

/-- Go on with a value, if there is one. -/
def andThen (x : Checked α) (f : α → Checked β) : Checked β :=
  match x with
  | .ok a => f a
  | .failed e => .failed e

/-- Refuse data. -/
def refuse (data : Json) (cause : FieldCause) : Checked α := .failed [⟨[], cause, .of data⟩]

/-- Put a step in front of the paths of the faults. -/
def under (step : Step) : Checked α → Checked α
  | .ok a => .ok a
  | .failed e => .failed (e.map fun f => { f with path := step :: f.path })

def toOption : Checked α → Option α
  | .ok a => some a
  | .failed _ => none

/-- Check the items of a list under their indices. -/
def eachFrom (check : Json → Checked α) (index : Nat) : List Json → Checked (List α)
  | [] => .ok []
  | v :: vs =>
    seq (map List.cons (under (.item index) (check v))) fun _ => eachFrom check (index + 1) vs

end Checked

/-- A reader of one kind of data. -/
abbrev Reader (α : Type) := Json → Checked α

variable {α : Type}

/-- A field that has to be there. -/
def required (name : String) (check : Reader α) (fields : Fields Json) : Checked α :=
  match fields.get? name with
  | none => .under (.field name) (.refuse (.obj fields) .missing)
  | some v => .under (.field name) (check v)

/-- A field with a value for its absence. -/
def defaulted (name : String) (default : α) (check : Reader α) (fields : Fields Json) : Checked α :=
  match fields.get? name with
  | none => .ok default
  | some v => .under (.field name) (check v)

/-- Data that may be null. -/
def nullable (check : Reader α) : Reader (Option α)
  | .null => .ok none
  | v => (check v).map some

def listOf (check : Reader α) : Reader (List α)
  | .arr items => .eachFrom check 0 items
  | v => .refuse v .notList

/-- Check the values of a mapping under their keys. -/
def eachEntry (check : Reader α) : List (String × Json) → Checked (Fields α)
  | [] => .ok []
  | (key, v) :: rest =>
    Checked.seq (Checked.map (fun a rest => (key, a) :: rest) (.under (.field key) (check v)))
      fun _ => eachEntry check rest

def mappingOf (check : Reader α) : Reader (Fields α)
  | .obj fields => eachEntry check fields
  | v => .refuse v .notMapping

/-- Data with fields. -/
def recordOf (build : Fields Json → Checked α) : Reader α
  | .obj fields => build fields
  | v => .refuse v .notRecord

end Pinboard.Record
