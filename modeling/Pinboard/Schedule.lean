import Pinboard.Context
import Pinboard.Deferred
import Pinboard.State.Stored

/-!
# The schedule

Deferred evaluations are kept as a stored list. Checking the schedule resolves every record that is
due and then removes exactly those, so records scheduled meanwhile stay. A record is removed also if
its resolution fails.
-/
namespace Pinboard.Schedule

open Time

variable {σ : Type}

/-- The well-formed records of a stored list. -/
def ofItems (items : List Json) : List Deferred :=
  items.filterMap fun item => (Deferred.read item).toOption

def load (storage : KeyValueStore σ) (key : String) : Action σ (List Deferred) := do
  pure (ofItems (← Stored.load storage key))

def save (storage : KeyValueStore σ) (key : String) (records : List Deferred) : Action σ Unit :=
  Stored.save storage key (records.map Deferred.toJson)

/-- Append a record; gives the pair that cancels it. -/
def schedule (storage : KeyValueStore σ) (key target : String) (due : Timestamp) :
    Action σ (String × Timestamp) := do
  let record := Deferred.of target due
  let records ← load storage key
  save storage key (records ++ [record])
  pure (record.target, record.due)

/-- Remove the first record with a text and a moment. -/
def removeFirst (target : String) (due : Timestamp) (records : List Deferred) : List Deferred :=
  records.eraseP (Deferred.isAt target due)

/-- Whether a record was removed; nothing is written if there was none. -/
def cancel (storage : KeyValueStore σ) (key target : String) (due : Timestamp) :
    Action σ Bool := do
  let records ← load storage key
  if records.any (Deferred.isAt target due) then
    save storage key (removeFirst target due records)
    pure true
  else pure false

/-- Remove one record for each of a list of processed ones. -/
def removeAll (processed records : List Deferred) : List Deferred :=
  processed.foldl (fun rest d => removeFirst d.target d.due rest) records

/-- Resolve records in turn, whatever becomes of each. -/
def resolveAll (resolve : String → Context → Action σ String) (settings : Settings) :
    List Deferred → Action σ Unit
  | [] => pure ()
  | d :: ds => do
    let context := Context.assemble settings none none [] 0
    let _ ← Action.total (Action.orElse (resolve d.target context) "")
    resolveAll resolve settings ds

/-- Resolve every record that is due and remove it; gives the records resolved. -/
def checkDue (services : Services σ) (key : String)
    (resolve : String → Context → Action σ String) (now : Option Timestamp) :
    Action σ (List Deferred) := do
  let now ← match now with
    | some t => pure t
    | none => services.host.now
  let due := (← load services.storage key).filter (Deferred.isDue now)
  if due.isEmpty then pure []
  else
    resolveAll resolve services.settings due
    let remaining ← load services.storage key
    save services.storage key (removeAll due remaining)
    pure due

end Pinboard.Schedule
