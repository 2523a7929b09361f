import Pinboard.Item.Basic

/-!
# Deferred evaluations

A text to be resolved at or after a moment. A moment without offset is read as UTC, so all due dates
can be compared. Text and moment together identify a record.
-/
namespace Pinboard

open Record Time

structure Deferred where
  target : String
  due : Timestamp
  aware : due.isAware = true
  deriving DecidableEq, Repr

namespace Deferred

def of (target : String) (due : Timestamp) : Deferred where
  target := target
  due := due.assumeUtc
  aware := Timestamp.isAware_assumeUtc due

def toJson (d : Deferred) : Json := .obj [("target", .str d.target), ("due_date", d.due.toJson)]

def read : Reader Deferred := recordOf fun data =>
  Deferred.of <$> required "target" text data <*> required "due_date" moment data

def isDue (now : Timestamp) (d : Deferred) : Bool := d.due.instant ≤ now.instant

/-- Whether a record has this text and this moment. -/
def isAt (target : String) (due : Timestamp) (d : Deferred) : Bool :=
  d.target == target && d.due.instant == due.instant

end Deferred
end Pinboard
