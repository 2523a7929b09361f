import Pinboard.Record.Moment

/-!
# Stored items

What pins, groups and tags have in common: an id, a name, the moment of creation, and a form as data
that is read back to an equal item.
-/
namespace Pinboard

open Record Time

inductive ItemKind where
  | pin | group | tag
  deriving DecidableEq, Repr

/-- Where a pin or a group is visible, if at all. -/
inductive Visibility where
  | useParent | visible | menubarOnly | viewPinsOnly | hidden | disabled
  deriving DecidableEq, Repr

def ItemKind.names : List (String × ItemKind) :=
  [("pin", .pin), ("group", .group), ("tag", .tag)]

def ItemKind.name : ItemKind → String
  | .pin => "pin"
  | .group => "group"
  | .tag => "tag"

def Visibility.names : List (String × Visibility) :=
  [("use_parent", .useParent), ("visible", .visible), ("menubar_only", .menubarOnly),
    ("view_pins_only", .viewPinsOnly), ("hidden", .hidden), ("disabled", .disabled)]

def Visibility.name : Visibility → String
  | .useParent => "use_parent"
  | .visible => "visible"
  | .menubarOnly => "menubar_only"
  | .viewPinsOnly => "view_pins_only"
  | .hidden => "hidden"
  | .disabled => "disabled"

@[simp] theorem ItemKind.read_name (k : ItemKind) : choice names (.str k.name) = .ok k := by
  cases k <;> decide

@[simp] theorem Visibility.read_name (v : Visibility) : choice names (.str v.name) = .ok v := by
  cases v <;> decide

/-- Timestamps as stored data. -/
def Time.Timestamp.toJson (t : Timestamp) : Json := .str t.stored

/-- What a new item takes where its data is silent. -/
structure Fresh where
  id : String
  now : Timestamp

/-- Items held by the stores. -/
class Item (α : Type) where
  /-- The word for items of this kind. -/
  title : String
  id : α → String
  fields : α → Fields Json
  read : Fresh → Reader α

namespace Item

variable {α : Type} [Item α]

def toJson (item : α) : Json := .obj (fields item)

end Item

/-- Whether data of an item leaves its id open. -/
def leavesIdOpen : Json → Bool
  | .obj fields => !Fields.has "id" fields
  | _ => false

/-- The id of the `n`-th generated item. -/
def generatedId (n : Nat) : String := String.ofList (Number.hexDigits 12 n)

end Pinboard
