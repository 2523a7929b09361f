import Pinboard.Proofs.Schedule.Records

/-!
# A journal as state

A state that is nothing but what was written, with a store and a clock and no other services. Bells
are the records that are kept in it.
-/
namespace Pinboard

open Time

/-- Everything that was written to a store, under its key, the latest first. -/
abbrev Journal := Fields Json

namespace Journal

def storage : KeyValueStore Journal where
  get? := fun key => return (← get).get? key
  set := fun key v => modify fun journal => (key, v) :: journal
  erase := fun key => modify (Fields.erase key)

lemma keeps (key : String) : storage.Keeps key (Fields.get? key) where
  get w := ⟨w, rfl, rfl⟩
  set v w := ⟨(key, v) :: w, rfl, if_pos rfl⟩

/-- How often a key was written. -/
def writes (key : String) (w : Journal) : Nat := w.countP (·.1 = key)

lemma counts (key : String) : storage.Counts key (writes key) where
  get _ := rfl
  set _ _ := List.countP_cons_of_pos (by simp)

/-- A journal with a list of records. -/
def holding (key : String) (records : List Deferred) : Journal := [(key, Schedule.saved records)]

lemma holds_holding (key : String) (records : List Deferred) :
    Schedule.Holds storage key records (holding key records) := by
  rw [Schedule.holds_iff (keeps key), holding, Fields.get?, if_pos rfl, Schedule.recordsOf_saved]

/-- A host of which nothing is known but the moment. -/
def hostAt (now : Timestamp) : Host Journal where
  user := ""
  home := ""
  name := ""
  zone := "UTC"
  now := pure now
  freshNumber := pure 0
  stopwatch := pure 0
  pathExists := fun _ => pure false
  sample := fun _ _ => pure []

/-- A collection without items that takes none. -/
def noItems {α : Type} : CollectionStore Journal α where
  list := pure []
  add := fun _ => pure []
  update := fun _ => pure ()
  remove := fun _ => pure ()

/-- Services with no more than a store and a clock. -/
def servicesAt (now : Timestamp) : Services Journal where
  pins := noItems
  groups := noItems
  tags := noItems
  storage := storage
  platform := none
  notifier := none
  completion := none
  host := hostAt now
  settings := Settings.default

/-- A time of day on a fixed date. -/
def onDay (clock : Clock) (offset : Option Offset) : Timestamp :=
  ⟨⟨2030, 1, 2, by decide⟩, clock, offset⟩

def nine : Timestamp := onDay ⟨9, 0, 0, 0, by decide⟩ (some .utc)

/-- The same moment on a clock two hours ahead. -/
def nineAhead : Timestamp := onDay ⟨11, 0, 0, 0, by decide⟩ (some ⟨120, by decide⟩)

def noon : Timestamp := onDay ⟨12, 0, 0, 0, by decide⟩ none

def evening : Timestamp := onDay ⟨18, 0, 0, 0, by decide⟩ (some .utc)

def bell (due : Timestamp) : Deferred := .of "ring" due

end Journal
end Pinboard
