import Pinboard.Proofs.Schedule.Journal
import Pinboard.Launch

/-!
# A desktop as state

A state that is the pins, what was written to a store and what the platform was given. Its
collaborators may be missing or refuse to work.
-/
namespace Pinboard

open Number

/-- What a platform is given to copy, to open or to run. -/
inductive Handing where
  | copied (text : String)
  | opened (target : String) (application : Option String)
  | ran (command : String)
  deriving DecidableEq, Repr

structure Desktop where
  pins : List Pin
  written : Fields Json
  handed : List Handing

namespace Desktop

variable {α : Type}

/-- A call that is refused. -/
def refuse (call : String) : Action Desktop α := throw (.refused call)

def hand (given : Handing) : Action Desktop Unit :=
  modify fun desktop => { desktop with handed := desktop.handed ++ [given] }

/-- A platform that takes everything and tells nothing. -/
def platform : Platform Desktop where
  clipboard := pure none
  selectedText := pure none
  application := pure none
  directory := pure none
  files := pure []
  tab := pure none
  track := pure none
  setClipboard := fun text => hand (.copied text)
  paste := fun _ => pure ()
  runShell := fun command => do
    hand (.ran command)
    pure ""
  openTarget := fun target application => hand (.opened target application)
  speak := fun _ _ => pure ()
  runInBrowser := fun _ _ => pure none

/-- A surface that shows what it can. -/
def notifier (showMessage : String → Action Desktop Unit) : Notifier Desktop where
  showMessage := showMessage
  showAlert := fun _ _ => pure ()
  showToast := fun _ _ => pure ()
  prompt := fun _ _ _ => pure none
  confirm := fun _ _ => pure false

def pinShelf : Memory.Shelf Desktop (List Pin) where
  value := Desktop.pins
  put := fun pins desktop => { desktop with pins := pins }

def writtenShelf : Memory.Shelf Desktop (Fields Json) where
  value := Desktop.written
  put := fun written desktop => { desktop with written := written }

/-- A collection without items that takes none. -/
def noItems : CollectionStore Desktop α where
  list := pure []
  add := fun _ => pure []
  update := fun _ => pure ()
  remove := fun _ => pure ()

def host : Host Desktop where
  user := ""
  home := "/home"
  name := ""
  zone := "UTC"
  now := pure Journal.nine
  freshNumber := pure 0
  stopwatch := pure 0
  pathExists := fun _ => pure true
  sample := fun _ _ => pure []

/-- The services of a desktop, with or without a platform. -/
def services (automated : Bool) (showMessage : String → Action Desktop Unit) :
    Services Desktop where
  pins := Memory.collection pinShelf
  groups := noItems
  tags := noItems
  storage := Memory.keyValues writtenShelf
  platform := if automated then some platform else none
  notifier := some (notifier showMessage)
  completion := none
  host := host
  settings := Settings.default

/-- A pin with an id for its name. -/
def pin (id target : String) : Pin := Pin.new ⟨id, Journal.nine⟩ id target noGroup

/-- A desktop of pins on which nothing has happened. -/
def ofPins (pins : List Pin) : Desktop := ⟨pins, [], []⟩

end Desktop

/-- A desktop on which nothing fails. -/
abbrev Launch.desk : Services Desktop := Desktop.services true fun _ => pure ()

end Pinboard
