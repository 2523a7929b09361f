import Pinboard.Json.Printer
import Pinboard.Json.Reader
import Pinboard.Services

/-!
# Stored lists

The engine keeps its own state as JSON lists under fixed keys of the key-value store. What is absent
or empty, is no JSON or is no list reads as the empty list.
-/
namespace Pinboard.Stored

variable {σ : Type}

def lastPinKey : String := "last-opened-pin"

def recentAppsKey : String := "local-recent-apps"

def deferredKey : String := "delayed-executions"

def variablesKey : String := "persistent-vars"

/-- The items of a text. -/
def itemsOfText (text : String) : Except Fault (List Json) :=
  match Json.read text with
  | .ok (.arr items) => .ok items
  | .ok _ => .ok []
  | .error .malformed => .ok []
  | .error (.tooManyDigits count) => .error (.tooManyDigits count)

/-- The items of a stored value, which has to be a text unless it is empty. -/
def itemsOf (stored : Option Json) : Except Fault (List Json) :=
  match stored.filter Json.isTrue with
  | none => .ok []
  | some (.str text) => itemsOfText text
  | some _ => .error .wrongType

def load (storage : KeyValueStore σ) (key : String) : Action σ (List Json) := do
  Action.ofExcept (itemsOf (← storage.get? key))

/-- The records that are kept hold texts only, so all of them can be written. -/
def save (storage : KeyValueStore σ) (key : String) (items : List Json) : Action σ Unit :=
  storage.set key (.str (Json.arr items).print)

end Pinboard.Stored
