import Pinboard.Builtin.Catalogue
import Pinboard.CommandLine.Arguments
import Pinboard.Console
import Pinboard.Directive.Callable
import Pinboard.Expiry
import Pinboard.LanguageModel.Client
import Pinboard.Store.Documents

/-!
# Commands

A command runs on the stores that the settings choose: those on a document server if there is an
address, else those in memory. Every connection that was opened is closed again, however the command
ends.
-/
namespace Pinboard.CommandLine

variable {σ α : Type}

/-- The stores of an engine. -/
structure Stores (σ : Type) where
  pins : CollectionStore σ Pin
  groups : CollectionStore σ Group
  tags : CollectionStore σ Tag
  storage : KeyValueStore σ

/-- What commands run on. -/
structure Machine (σ : Type) where
  host : Host σ
  memory : Stores σ
  server : Server σ
  models : LanguageModel.Backend σ
  console : Console σ

/-! ## Stores on a server -/

/-- The collections of the stores, and whether their documents have an order. -/
def shelves : List (String × Bool) :=
  [("pins", true), ("groups", true), ("tags", true), ("engine_state", false)]

/-- Open a connection for each shelf in turn. If one fails, those before it are closed. -/
def connectAll (server : Server σ) (address database : String) (opened : List Nat) :
    List (String × Bool) → Action σ (List Nat)
  | [] => pure opened
  | (name, ordered) :: rest => do
    let link ←
      tryCatch (Documents.connect server ⟨address, database, name⟩ ordered) fun fault => do
        opened.forM server.close
        throw fault
    connectAll server address database (opened ++ [link]) rest

/-- The stores over open connections, one for each shelf. -/
def storesOn (m : Machine σ) (links : List Nat) : Stores σ where
  pins := Documents.collection m.server m.host.now "pins" links[0]?
  groups := Documents.collection m.server m.host.now "groups" links[1]?
  tags := Documents.collection m.server m.host.now "tags" links[2]?
  storage := Documents.keyValues m.server "engine_state" links[3]?

/-- Do some work on the stores that the settings choose. -/
def withStores (m : Machine σ) (settings : Settings) (work : Stores σ → Action σ α) : Action σ α :=
  match LanguageModel.given? settings.databaseAddress with
  | none => work m.memory
  | some address => do
    let links ← connectAll m.server address settings.databaseName [] shelves
    tryFinally (work (storesOn m links)) (links.forM m.server.close)

/-! ## Commands -/

/-- The collaborators of a command: a console to talk on, and no automation. -/
def services (m : Machine σ) (settings : Settings) (stores : Stores σ) : Services σ where
  pins := stores.pins
  groups := stores.groups
  tags := stores.tags
  storage := stores.storage
  platform := none
  notifier := some m.console.notifier
  completion := some (LanguageModel.completion m.models settings)
  host := m.host
  settings := settings

/-- The resolver of the built-in directives with the limit of the settings. -/
def resolver (services : Services σ) : Resolver σ :=
  ⟨Builtin.registry services, some services.settings.maxIterations⟩

/-- What is reported after all that was due. -/
def report (evaluated expired : Nat) : String :=
  "Ran " ++ Number.natText evaluated ++ " deferred evaluation(s); " ++ Number.natText expired
    ++ " pin(s) expired"

/-- Run a command and give the text to print. -/
def run (m : Machine σ) (settings : Settings) (command : Command) : Action σ String :=
  withStores m settings fun stores => do
    let services := services m settings stores
    let resolver := resolver services
    match command with
    | .resolve target =>
      let context := Context.assemble settings none none [] 0
      let (text, _) ← Action.total (resolver.resolve target context)
      return text
    | .checkDue =>
      let resolve := resolver.outermost.resolve
      let evaluated ← Schedule.checkDue services Stored.deferredKey resolve none
      let expired ← Expiry.check services resolve none
      return report evaluated.length expired.total

/-- Run a command, print its text and give the exit status; a server that does not answer has a
status of its own. -/
def execute (m : Machine σ) (settings : Settings) (command : Command) : Action σ Nat := do
  let outcome ←
    tryCatch (some <$> run m settings command) fun
      | .unreachable _ => pure none
      | fault => throw fault
  match outcome with
  | none => return 1
  | some text =>
    m.console.writeLine text
    return 0

end Pinboard.CommandLine
