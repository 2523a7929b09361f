import Pinboard.Console
import Pinboard.Document.Basic
import Pinboard.LanguageModel.Client

/-!
# Rehearsal worlds

A rehearsal runs the engine against a scripted host. The world of a rehearsal holds what the host
shows, the answers that it gives in turn, the stored data, and every call that was made, the latest
first.
-/
namespace Pinboard.Rehearsal

open Time

/-- A call to a collaborator. -/
structure Call where
  name : String
  args : List Json

/-- What the automated host shows and answers. -/
structure Scene where
  clipboard : Option String
  selectedText : Option String
  application : Option AppRef
  directory : Option FileRef
  files : List FileRef
  tab : Option TabRef
  track : Option TrackRef
  /-- The outputs of some commands. -/
  shell : Fields String
  /-- The output of all other commands. -/
  shellDefault : String
  browser : Option String
  /-- The methods that fail. -/
  refused : List String

/-- The user's answers, in turn. -/
structure Replies where
  /-- Answers to prompts; nothing where the user cancels. -/
  prompts : List (Option String)
  confirms : List Bool
  /-- The methods that fail. -/
  refused : List String

/-- A completion, or the message of a failure. -/
abbrev CompletionReply := Except String String

/-- A document server and its data. -/
structure ServerScene where
  /-- How many connections were opened. -/
  connections : Nat
  collections : Fields (List Document)
  /-- The methods that fail. -/
  refused : List String
  /-- A connection on which the server does not answer. -/
  silent : Option Nat

/-- The providers of language models, and the clients built so far. -/
structure ModelScene where
  environment : Fields String
  connections : Nat
  clients : List LanguageModel.Client
  /-- What every model answers. -/
  answer : Option String

structure World where
  now : Timestamp
  /-- How many fresh numbers were given. -/
  issued : Nat
  /-- How often the stopwatch was read. -/
  readings : Nat
  /-- Milliseconds between two readings of the stopwatch. -/
  tick : Nat
  /-- The paths that exist. -/
  paths : List String
  pins : List Pin
  groups : List Group
  tags : List Tag
  storage : Fields Json
  /-- The store calls that fail. -/
  refused : List String
  scene : Scene
  replies : Replies
  completions : List CompletionReply
  server : ServerScene
  models : ModelScene
  terminal : Terminal
  /-- How often each scripted directive ran. -/
  runs : Fields Nat
  /-- The calls made, the latest first. -/
  calls : List Call

namespace Scene

def empty : Scene := ⟨none, none, none, none, [], none, none, [], "", none, []⟩

end Scene

namespace Replies

def none : Replies := ⟨[], [], []⟩

end Replies

namespace ServerScene

def empty : ServerScene := ⟨0, [], [], none⟩

end ServerScene

namespace ModelScene

def empty : ModelScene := ⟨[], 0, [], none⟩

end ModelScene

namespace World

/-- A world without data at a moment. -/
def empty (now : Timestamp) : World where
  now := now
  issued := 0
  readings := 0
  tick := 0
  paths := []
  pins := []
  groups := []
  tags := []
  storage := []
  refused := []
  scene := Scene.empty
  replies := Replies.none
  completions := []
  server := ServerScene.empty
  models := ModelScene.empty
  terminal := Terminal.ofInput ""
  runs := []
  calls := []

/-- The present moment on the UTC clock; none outside its calendar. -/
def clock? (w : World) : Option Timestamp := w.now.toUtc?

/-- The data of a new item, which counts as issued if the item's own data leaves its id open. -/
def fresh (w : World) : Fresh := ⟨generatedId (w.issued + 1), w.clock?.getD w.now⟩

/-- Read an item, giving it an id if its data leaves that open. -/
def readItem {α : Type} [Item α] (data : Json) (w : World) : Record.Checked α × World :=
  (Item.read w.fresh data,
    if leavesIdOpen data then { w with issued := w.issued + 1 } else w)

/-- Read items in turn, up to the first that is refused. -/
def readItems {α : Type} [Item α] : List Json → World → Record.Checked (List α) × World
  | [], w => (.ok [], w)
  | data :: rest, w =>
    match readItem data w with
    | (.failed faults, w) => (.failed faults, w)
    | (.ok item, w) =>
      let (items, w) := readItems rest w
      (items.map (item :: ·), w)

end World
end Pinboard.Rehearsal
