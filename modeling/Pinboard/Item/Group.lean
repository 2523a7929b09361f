import Pinboard.Item.Basic

/-!
# Groups and tags
-/
namespace Pinboard

open Record Time

structure Group where
  id : String
  name : String
  created : Timestamp
  kind : ItemKind
  icon : String
  parent : Option String
  sortStrategy : String
  visibility : Visibility
  tags : List String
  deriving DecidableEq, Repr

/-- A tag that can be attached to pins and groups. -/
structure Tag where
  id : String
  name : String
  created : Timestamp
  kind : ItemKind
  color : String
  deriving DecidableEq, Repr

namespace Group

def new (fresh : Fresh) (name icon : String) (visibility : Visibility) : Group where
  id := fresh.id
  name := name
  created := fresh.now
  kind := .group
  icon := icon
  parent := none
  sortStrategy := "manual"
  visibility := visibility
  tags := []

def fields (g : Group) : Fields Json :=
  [("id", .str g.id), ("name", .str g.name), ("date_created", g.created.toJson),
    ("item_type", .str g.kind.name), ("icon", .str g.icon),
    ("parent", Json.ofOption .str g.parent), ("sort_strategy", .str g.sortStrategy),
    ("visibility", .str g.visibility.name), ("tags", Json.ofStrings g.tags)]

def read (fresh : Fresh) : Reader Group := recordOf fun data =>
  let base := new fresh "New Group" "Minus" .useParent
  Group.mk <$> defaulted "id" base.id text data <*> defaulted "name" base.name text data
    <*> defaulted "date_created" base.created moment data
    <*> defaulted "item_type" base.kind (choice ItemKind.names) data
    <*> defaulted "icon" base.icon text data
    <*> defaulted "parent" base.parent (nullable text) data
    <*> defaulted "sort_strategy" base.sortStrategy text data
    <*> defaulted "visibility" base.visibility (choice Visibility.names) data
    <*> defaulted "tags" base.tags (listOf text) data

/-- Whether a text names this group by name or id. -/
def isNamed (g : Group) (ref : String) : Bool := ref == g.name || ref == g.id

end Group

namespace Tag

def fields (t : Tag) : Fields Json :=
  [("id", .str t.id), ("name", .str t.name), ("date_created", t.created.toJson),
    ("item_type", .str t.kind.name), ("color", .str t.color)]

def read (fresh : Fresh) : Reader Tag := recordOf fun data =>
  Tag.mk <$> defaulted "id" fresh.id text data <*> required "name" text data
    <*> defaulted "date_created" fresh.now moment data
    <*> defaulted "item_type" ItemKind.tag (choice ItemKind.names) data
    <*> defaulted "color" "PrimaryText" text data

end Tag

instance : Item Group where
  title := "Group"
  id := Group.id
  fields := Group.fields
  read := Group.read

instance : Item Tag where
  title := "Tag"
  id := Tag.id
  fields := Tag.fields
  read := Tag.read

end Pinboard
