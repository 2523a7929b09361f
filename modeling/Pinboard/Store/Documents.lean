import Pinboard.Document.Server
import Pinboard.Services

/-!
# Collections held as documents

Each item is one document under its id. A position keeps the order of the items: new items take the
positions after the highest one. A text under a key is a document with a value. A store works once
its connection is open; a failure of the server is told with what was tried.
-/
namespace Pinboard.Documents

open Time

variable {σ α : Type}

/-- Where a store keeps its documents. -/
structure Place where
  address : String
  database : String
  collection : String
  deriving DecidableEq, Repr

/-- The field that keeps the order of items. -/
def positionField : String := "position"

/-! ## Connections -/

/-- Open the connection of a store. If the server does not answer or anything else fails, the
connection is closed again. -/
def connect (server : Server σ) (place : Place) (ordered : Bool) : Action σ Nat := do
  let link ← server.connect place.address
  let steps : Action σ Unit := do
    server.selectDatabase link place.database
    server.ping link
    server.ensure place.collection
    if ordered then server.createIndex place.collection positionField
  tryCatch steps fun fault => do
    server.close link
    match fault with
    | .connectionRefused => throw (.unreachable place.address)
    | other => throw other
  return link

/-- Close the connection of a store, if it is open. -/
def disconnect (server : Server σ) (link : Option Nat) : Action σ Unit :=
  match link with
  | some n => server.close n
  | none => pure ()

/-- Fault unless a connection is open. -/
def needLink (link : Option Nat) : Action σ Unit := do
  let _ ← Action.demand .notStarted link

/-- A failure tells what was tried. -/
def trying (attempt : String) (x : Action σ α) : Action σ α :=
  tryCatch x fun fault => throw (.storage attempt fault.message)

/-! ## Items -/

section

variable [Item α]

/-- The fields of an item's document other than its id. -/
def contents (item : α) : Document := (Item.fields item).erase "id"

/-- The document of an item at a position. -/
def ofItem (position : Number.Numeric) (item : α) : Document :=
  ((contents item).set Document.idField (.str (Item.id item))).set positionField
    (.ofNumeric position)

/-- The documents of items at a position and those after it. -/
def ofItems (position : Number.Numeric) (items : List α) : List Document :=
  items.zipIdx.map fun (item, offset) => ofItem (position.plus offset) item

/-- The item of a document. A document without a moment of creation counts as made now. -/
def toItem (now : Timestamp) (d : Document) : Action σ α :=
  match Fields.get? Document.idField d with
  | none => throw (.noKey Document.idField)
  | some id =>
    let fields := (Fields.erase positionField (Fields.erase Document.idField d)).set "id" id
    Action.ofChecked (Item.title α) (Item.read ⟨"", now⟩ (.obj fields))

/-- The position after the highest document. -/
def positionAfter : Option Document → Action σ Number.Numeric
  | none => pure (.whole 0)
  | some d =>
    match Fields.get? positionField d with
    | some v => (·.plus 1) <$> Action.demand (.noSum v.kind) v.numeric?
    | none => throw (.noKey positionField)

/-- A collection of items on a server, with its connection if that is open. -/
def collection (server : Server σ) (now : Action σ Timestamp) (name : String) (link : Option Nat) :
    CollectionStore σ α where
  list := do
    needLink link
    trying ("list " ++ name) do
      let docs ← server.ascending name positionField
      let moment ← now
      docs.mapM (toItem moment)
  add := fun items => do
    if items.isEmpty then return []
    needLink link
    trying ("add to " ++ name) do
      let position ← positionAfter (← server.highest? name positionField)
      server.insertAll name (ofItems position items)
      return items
  update := fun items => do
    needLink link
    trying ("update " ++ name) do
      items.forM fun item => server.setFields name (Item.id item) (contents item)
  remove := fun items => do
    if items.isEmpty then return ()
    needLink link
    trying ("remove from " ++ name) do
      server.removeAll name (items.map Item.id)

end

/-! ## Values under keys -/

/-- The field of a value under a key. -/
def valueField : String := "value"

def inQuotes (key : String) : String := "'" ++ key ++ "'"

/-- The value under a key. -/
def value? (server : Server σ) (name : String) (link : Option Nat) (key : String) :
    Action σ (Option Json) := do
  needLink link
  trying ("get " ++ inQuotes key) do
    match ← server.find? name key with
    | none => return none
    | some d => some <$> Action.demand (.noKey valueField) (Fields.get? valueField d)

/-- Values under keys on a server. -/
def keyValues (server : Server σ) (name : String) (link : Option Nat) : KeyValueStore σ where
  get? := value? server name link
  set := fun key value => do
    needLink link
    trying ("set " ++ inQuotes key) do
      server.replace name key [(Document.idField, .str key), (valueField, value)]
  erase := fun key => do
    needLink link
    trying ("remove " ++ inQuotes key) do
      server.removeFirst name key

end Pinboard.Documents
