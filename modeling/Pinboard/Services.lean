import Pinboard.Action
import Pinboard.Environment
import Pinboard.Item.Group
import Pinboard.Item.Pin
import Pinboard.Settings

/-!
# Services

The collaborators that directives call into, as actions on a state that is theirs. Stores are always
there; automation of the host, notifications and completion may be missing.
-/
namespace Pinboard

open Time Number

/-- A persisted collection of items in a stored order. -/
structure CollectionStore (σ α : Type) where
  list : Action σ (List α)
  /-- Append items. -/
  add : List α → Action σ (List α)
  /-- Replace the stored items that share an id with the given ones. -/
  update : List α → Action σ Unit
  /-- Remove the stored items that share an id with the given ones. -/
  remove : List α → Action σ Unit

/-- Values under keys. The engine itself keeps texts; others may come from outside. -/
structure KeyValueStore (σ : Type) where
  get? : String → Action σ (Option Json)
  set : String → Json → Action σ Unit
  erase : String → Action σ Unit

/-- Automation of the host. -/
structure Platform (σ : Type) where
  clipboard : Action σ (Option String)
  selectedText : Action σ (Option String)
  application : Action σ (Option AppRef)
  directory : Action σ (Option FileRef)
  files : Action σ (List FileRef)
  tab : Action σ (Option TabRef)
  track : Action σ (Option TrackRef)
  setClipboard : String → Action σ Unit
  paste : String → Action σ Unit
  /-- Run a command and give its output. -/
  runShell : String → Action σ String
  /-- Open a URL or path, with an application if one is given. -/
  openTarget : String → Option String → Action σ Unit
  speak : String → Option String → Action σ Unit
  /-- Run a script in the active tab of a browser. -/
  runInBrowser : String → String → Action σ (Option String)

/-- Messages to the user and questions. -/
structure Notifier (σ : Type) where
  showMessage : String → Action σ Unit
  /-- A title and a message. -/
  showAlert : String → String → Action σ Unit
  showToast : String → String → Action σ Unit
  /-- A text, a title and a default; nothing if the user cancels. -/
  prompt : String → String → String → Action σ (Option String)
  /-- A text and a title. -/
  confirm : String → String → Action σ Bool

/-- Completion of a prompt by a language model; the model and its creativity may be chosen. -/
structure Completion (σ : Type) where
  complete : String → Option String → Binary64 → Action σ String

/-- The machine and its user. -/
structure Host (σ : Type) where
  user : String
  home : String
  name : String
  zone : String
  /-- The present moment on the UTC clock. -/
  now : Action σ Timestamp
  /-- A number that was not given before. -/
  freshNumber : Action σ Nat
  /-- Milliseconds on a clock that only goes forward. -/
  stopwatch : Action σ Nat
  /-- Whether a path exists. -/
  pathExists : String → Action σ Bool
  /-- Choose a number of indices below a bound. -/
  sample : Nat → Nat → Action σ (List Nat)

structure Services (σ : Type) where
  pins : CollectionStore σ Pin
  groups : CollectionStore σ Group
  tags : CollectionStore σ Tag
  storage : KeyValueStore σ
  platform : Option (Platform σ)
  notifier : Option (Notifier σ)
  completion : Option (Completion σ)
  host : Host σ
  settings : Settings

namespace Services

variable {σ : Type} (s : Services σ)

def needPlatform : Action σ (Platform σ) := Action.demand (.missing .platform) s.platform

def needNotifier : Action σ (Notifier σ) := Action.demand (.missing .notifier) s.notifier

def needCompletion : Action σ (Completion σ) := Action.demand (.missing .completion) s.completion

/-- The id and moment for a new item. -/
def fresh : Action σ Fresh := do
  let n ← s.host.freshNumber
  let now ← s.host.now
  return ⟨generatedId n, now⟩

end Services
end Pinboard
