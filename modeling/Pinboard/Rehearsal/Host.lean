import Pinboard.Rehearsal.World
import Pinboard.Services
import Pinboard.Store.Memory

/-!
# The scripted host

The collaborators of a rehearsal. Every call that changes something outside the engine is recorded
before it succeeds or fails; reads of stores are not recorded.
-/
namespace Pinboard.Rehearsal

open Number

/-- Record a call. -/
def record (name : String) (args : List Json) : Action World Unit :=
  modify fun w => { w with calls := ⟨name, args⟩ :: w.calls }

/-- Fail if a store call is to be refused. -/
def permit (call : String) : Action World Unit := do
  if (← get).refused.contains call then throw (.refused call)

/-- The ids of items as data. -/
def idsOf {α : Type} [Item α] (items : List α) : Json := Json.ofStrings (items.map Item.id)

/-- Record a change of a collection and fail if it is to be refused. -/
def announce {α : Type} [Item α] (name method : String) (items : List α) : Action World Unit := do
  let call := name ++ "." ++ method
  record call [idsOf items]
  permit call

/-- A collection of the world. -/
def collection {α : Type} [Item α] (name : String) (shelf : Memory.Shelf World (List α)) :
    CollectionStore World α where
  list := do
    permit (name ++ ".list")
    (Memory.collection shelf).list
  add := fun items => do
    announce name "add" items
    (Memory.collection shelf).add items
  update := fun items => do
    announce name "update" items
    (Memory.collection shelf).update items
  remove := fun items => do
    announce name "remove" items
    (Memory.collection shelf).remove items

def pinShelf : Memory.Shelf World (List Pin) :=
  ⟨World.pins, fun items w => { w with pins := items }⟩

def groupShelf : Memory.Shelf World (List Group) :=
  ⟨World.groups, fun items w => { w with groups := items }⟩

def tagShelf : Memory.Shelf World (List Tag) :=
  ⟨World.tags, fun items w => { w with tags := items }⟩

def storageShelf : Memory.Shelf World (Fields Json) :=
  ⟨World.storage, fun values w => { w with storage := values }⟩

def storage : KeyValueStore World where
  get? := fun key => do
    permit "kv.get_item"
    (Memory.keyValues storageShelf).get? key
  set := fun key value => do
    record "kv.set_item" [.str key]
    permit "kv.set_item"
    (Memory.keyValues storageShelf).set key value
  erase := fun key => do
    record "kv.remove_item" [.str key]
    permit "kv.remove_item"
    (Memory.keyValues storageShelf).erase key

/-! ## Automation -/

/-- Record a call of the automated host and fail if it is to be refused. -/
def automate (method : String) (args : List Json) : Action World Scene := do
  record ("platform." ++ method) args
  let w ← get
  if w.scene.refused.contains method then throw (.refused method)
  return w.scene

def platform : Platform World where
  clipboard := return (← automate "get_clipboard_text" []).clipboard
  selectedText := return (← automate "get_selected_text" []).selectedText
  application := return (← automate "get_frontmost_application" []).application
  directory := return (← automate "get_current_directory" []).directory
  files := return (← automate "get_selected_files" []).files
  tab := return (← automate "get_current_tab" []).tab
  track := return (← automate "get_current_track" []).track
  setClipboard := fun text => do
    let _ ← automate "set_clipboard_text" [.str text]
    modify fun w => { w with scene := { w.scene with clipboard := some text } }
  paste := fun text => do
    let _ ← automate "paste_text" [.str text]
  runShell := fun command => do
    let scene ← automate "run_shell" [.str command]
    return (scene.shell.get? command).getD scene.shellDefault
  openTarget := fun target application => do
    let _ ← automate "open_target" [.str target, Json.ofOption .str application]
  speak := fun text voice => do
    let _ ← automate "speak" [.str text, Json.ofOption .str voice]
  runInBrowser := fun source browser =>
    return (← automate "run_in_browser_tab" [.str source, .str browser]).browser

/-! ## The user -/

/-- Record a message or question and fail if it is to be refused. -/
def address (method : String) (args : List Json) : Action World Unit := do
  record ("notifier." ++ method) args
  if (← get).replies.refused.contains method then throw (.refused method)

/-- The next answer to a prompt; nothing when all are used. -/
def nextPrompt : Action World (Option String) := do
  let w ← get
  match w.replies.prompts with
  | [] => return none
  | answer :: rest =>
    set { w with replies := { w.replies with prompts := rest } }
    return answer

/-- The next answer to a question of consent; yes when all are used. -/
def nextConfirm : Action World Bool := do
  let w ← get
  match w.replies.confirms with
  | [] => return true
  | answer :: rest =>
    set { w with replies := { w.replies with confirms := rest } }
    return answer

def notifier : Notifier World where
  showMessage := fun text => address "show_message" [.str text]
  showAlert := fun title message => address "show_alert" [.str title, .str message]
  showToast := fun title message => address "show_toast" [.str title, .str message]
  prompt := fun text title default => do
    address "prompt_user" [.str text, .str title, .str default]
    nextPrompt
  confirm := fun text title => do
    address "confirm" [.str text, .str title]
    nextConfirm

/-- The next completion; a fixed one when all are used. -/
def completion : Completion World where
  complete := fun prompt model creativity => do
    record "llm.complete" [.str prompt, Json.ofOption .str model, .real creativity]
    let w ← get
    match w.completions with
    | [] => return "reply"
    | reply :: rest =>
      set { w with completions := rest }
      match reply with
      | .ok text => return text
      | .error message => throw (.gaveUp message)

/-! ## The machine -/

def host : Host World where
  user := "tester"
  home := "/home/tester"
  name := "testhost"
  zone := "UTC"
  now := do Action.demand .outOfRange (← get).clock?
  freshNumber := do
    modify fun w => { w with issued := w.issued + 1 }
    return (← get).issued
  stopwatch := do
    let w ← get
    set { w with readings := w.readings + 1 }
    return w.readings * w.tick
  pathExists := fun path => return (← get).paths.contains path
  sample := fun bound count => return (List.range bound).reverse.take count

/-- Which of the optional collaborators a rehearsal has. -/
structure Cast where
  platform : Bool
  notifier : Bool
  completion : Bool

def services (cast : Cast) (settings : Settings) : Services World where
  pins := collection "pins" pinShelf
  groups := collection "groups" groupShelf
  tags := collection "tags" tagShelf
  storage := storage
  platform := if cast.platform then some platform else none
  notifier := if cast.notifier then some notifier else none
  completion := if cast.completion then some completion else none
  host := host
  settings := settings

end Pinboard.Rehearsal
