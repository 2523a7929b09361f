import Pinboard.Item.Basic

/-!
# Pins

A pin is a named shortcut. Its target is a URL, a path, a command or a text fragment, and may embed
directives that are expanded each time the pin is used.
-/
namespace Pinboard

open Record Time

structure Pin where
  id : String
  name : String
  created : Timestamp
  kind : ItemKind
  target : String
  icon : String
  /-- The name of the owning group, or `None`. -/
  group : String
  application : String
  expires : Option Timestamp
  /-- What happens on expiry: `delete`, `hide`, `disable`, or a text that starts with `custom` and
  is expanded. -/
  expiryAction : String
  /-- The target is text to copy. -/
  fragment : Bool
  background : Bool
  lastOpened : Option Timestamp
  timesOpened : Int
  /-- Milliseconds. -/
  averageTime : Int
  tags : List String
  notes : String
  tooltip : String
  visibility : Visibility
  aliases : List String
  deriving DecidableEq, Repr

/-- The group of pins that belong to none. -/
def noGroup : String := "None"

namespace Pin

/-- A pin with only a name, a target and a group given. -/
def new (fresh : Fresh) (name target group : String) : Pin where
  id := fresh.id
  name := name
  created := fresh.now
  kind := .pin
  target := target
  icon := "Favicon / File Icon"
  group := group
  application := "None"
  expires := none
  expiryAction := "delete"
  fragment := false
  background := false
  lastOpened := none
  timesOpened := 0
  averageTime := 0
  tags := []
  notes := ""
  tooltip := ""
  visibility := .visible
  aliases := []

def fields (p : Pin) : Fields Json :=
  [("id", .str p.id), ("name", .str p.name), ("date_created", p.created.toJson),
    ("item_type", .str p.kind.name), ("url", .str p.target), ("icon", .str p.icon),
    ("group", .str p.group), ("application", .str p.application),
    ("expire_date", Json.ofOption Timestamp.toJson p.expires),
    ("expiration_action", .str p.expiryAction), ("fragment", .bool p.fragment),
    ("exec_in_background", .bool p.background),
    ("last_opened", Json.ofOption Timestamp.toJson p.lastOpened),
    ("times_opened", .int p.timesOpened), ("average_execution_time", .int p.averageTime),
    ("tags", Json.ofStrings p.tags), ("notes", .str p.notes), ("tooltip", .str p.tooltip),
    ("visibility", .str p.visibility.name), ("aliases", Json.ofStrings p.aliases)]

def read (fresh : Fresh) : Reader Pin := recordOf fun data =>
  let base := new fresh "New Pin" "" noGroup
  Pin.mk <$> defaulted "id" base.id text data <*> defaulted "name" base.name text data
    <*> defaulted "date_created" base.created moment data
    <*> defaulted "item_type" base.kind (choice ItemKind.names) data
    <*> defaulted "url" base.target text data <*> defaulted "icon" base.icon text data
    <*> defaulted "group" base.group text data
    <*> defaulted "application" base.application text data
    <*> defaulted "expire_date" base.expires (nullable moment) data
    <*> defaulted "expiration_action" base.expiryAction text data
    <*> defaulted "fragment" base.fragment truth data
    <*> defaulted "exec_in_background" base.background truth data
    <*> defaulted "last_opened" base.lastOpened (nullable moment) data
    <*> defaulted "times_opened" base.timesOpened whole data
    <*> defaulted "average_execution_time" base.averageTime whole data
    <*> defaulted "tags" base.tags (listOf text) data
    <*> defaulted "notes" base.notes text data <*> defaulted "tooltip" base.tooltip text data
    <*> defaulted "visibility" base.visibility (choice Visibility.names) data
    <*> defaulted "aliases" base.aliases (listOf text) data

/-- Whether a text names this pin by name, id or alias. -/
def isNamed (p : Pin) (ref : String) : Bool :=
  ref == p.name || ref == p.id || p.aliases.contains ref

end Pin

instance : Item Pin where
  title := "Pin"
  id := Pin.id
  fields := Pin.fields
  read := Pin.read

end Pinboard
