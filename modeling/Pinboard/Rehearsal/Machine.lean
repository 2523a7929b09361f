import Pinboard.CommandLine.Run
import Pinboard.Rehearsal.Host

/-!
# The scripted machine

The document server, the language models and the terminal of a rehearsal, and the machine on which
commands are rehearsed. Every call to the server and to a provider is recorded before it succeeds or
fails.
-/
namespace Pinboard.Rehearsal

open LanguageModel

/-! ## The document server -/

/-- Record a call on a collection and fail if it is to be refused. -/
def request (name method : String) (args : List Json) : Action World Unit := do
  record (name ++ "." ++ method) args
  if (← get).server.refused.contains method then throw (.database (method ++ " failed"))

/-- The documents of a collection. -/
def documents (name : String) : Action World (List Document) :=
  return ((← get).server.collections.get? name).getD []

/-- Put documents in the place of a collection. -/
def putDocuments (name : String) (docs : List Document) : Action World Unit :=
  modify fun w =>
    { w with server := { w.server with collections := w.server.collections.set name docs } }

/-- A query for the document under an id. -/
def byId (id : String) : Json := .obj [(Document.idField, .str id)]

/-- A field with a direction of order. -/
def ordering (field : String) (direction : Int) : Json := .arr [.str field, .int direction]

def server : Server World where
  connect := fun address => do
    let w ← get
    let n := w.server.connections
    set { w with server := { w.server with connections := n + 1 } }
    record "client" [Json.ofNat n, .str address]
    return n
  selectDatabase := fun n name => record "database" [Json.ofNat n, .str name]
  ping := fun n => do
    record "command" [Json.ofNat n, .str "ping"]
    let scene := (← get).server
    if scene.refused.contains "ping" || scene.silent == some n then throw .connectionRefused
  close := fun n => record "close" [Json.ofNat n]
  ensure := fun name => do putDocuments name (← documents name)
  createIndex := fun name field =>
    request name "create_index" [.arr [ordering field 1], .bool true]
  ascending := fun name field => do
    request name "find" [.obj []]
    request name "to_list" [ordering field 1, .null]
    return Document.ascending field (← documents name)
  highest? := fun name field => do
    request name "find_one" [.obj [], .arr [ordering field (-1)]]
    return Document.highest? field (← documents name)
  find? := fun name id => do
    request name "find_one" [byId id, .null]
    return Document.find? id (← documents name)
  insertAll := fun name docs => do
    request name "insert_many" [.arr (docs.map .obj)]
    let (stored, clash) := Document.insertAll docs (← documents name)
    putDocuments name stored
    match clash with
    | none => pure ()
    | some id => throw (.database ("duplicate " ++ id))
  setFields := fun name id values => do
    request name "update_one" [byId id, .obj [("$set", .obj values)]]
    putDocuments name (Document.setFields id values (← documents name))
  removeAll := fun name ids => do
    request name "delete_many" [.obj [(Document.idField, .obj [("$in", Json.ofStrings ids)])]]
    putDocuments name (Document.removeAll ids (← documents name))
  replace := fun name id d => do
    request name "replace_one" [byId id, .obj d, .bool true]
    putDocuments name (Document.replace id d (← documents name))
  removeFirst := fun name id => do
    request name "delete_one" [byId id]
    putDocuments name (Document.removeFirst id (← documents name))

/-! ## The language models -/

/-- The name under which calls to a provider are recorded. -/
def Provider.label : Provider → String
  | .anthropic => "Anthropic"
  | .openai => "OpenAI"

/-- The options with which a client of a provider is built. -/
def connectOptions (p : Provider) (c : Credentials) : Fields Json :=
  match p, c.address with
  | .anthropic, none => [("api_key", .str c.key)]
  | _, address => [("api_key", .str c.key), ("base_url", Json.ofOption .str address)]

/-- What a model is asked, as data. -/
def generationFields (c : Client) (g : Generation) : Fields Json :=
  [("model", .str c.model),
    ("messages", .arr [.obj [("role", .str "user"), ("content", .str g.prompt)]]),
    ("temperature", .real g.temperature), ("max_tokens", .int g.maxTokens)] ++ g.options

/-- Change what is known of language models. -/
def changeModels (f : ModelScene → ModelScene) : Action World Unit :=
  modify fun w => { w with models := f w.models }

def models : Backend World where
  readVariable := fun name => return (← get).models.environment.get? name
  clients := return (← get).models.clients
  keep := fun c => changeModels fun m => { m with clients := m.clients ++ [c] }
  clear := changeModels fun m => { m with clients := [] }
  connect := fun p c => do
    let n := (← get).models.connections
    changeModels fun m => { m with connections := n + 1 }
    record (Provider.label p) [.obj (connectOptions p c)]
    return n
  answer := fun c g => do
    record (Provider.label c.provider ++ ".create") [.obj (generationFields c g)]
    return (← get).models.answer

/-! ## The machine -/

def console : Console World :=
  Console.ofTerminal World.terminal fun t w => { w with terminal := t }

def machine : CommandLine.Machine World where
  host := host
  memory :=
    { pins := Memory.collection pinShelf
      groups := Memory.collection groupShelf
      tags := Memory.collection tagShelf
      storage := Memory.keyValues storageShelf }
  server := server
  models := models
  console := console

end Pinboard.Rehearsal
