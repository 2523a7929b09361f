import Pinboard.Services

/-!
# Collections held in memory

A collection of items is a list in stored order. New items go to the end; an update and a removal
find the stored items by id. The stores made of such lists keep them in a state and never fault.
-/
namespace Pinboard.Memory

variable {α : Type} [Item α]

/-- Append items. -/
def add (items stored : List α) : List α := stored ++ items

/-- The last of some items with an id. -/
def latest? (id : String) (items : List α) : Option α :=
  items.reverse.find? fun item => Item.id item == id

/-- Replace each stored item by the last given one that has its id. -/
def update (items stored : List α) : List α :=
  stored.map fun s => (latest? (Item.id s) items).getD s

/-- Drop the stored items that have the id of a given one. -/
def remove (items stored : List α) : List α :=
  stored.filter fun s => !(items.any fun item => Item.id item == Item.id s)

@[simp] theorem length_update (items stored : List α) :
    (update items stored).length = stored.length := by
  simp [update]

@[simp] theorem update_nil (stored : List α) : update [] stored = stored := by
  simp [update, latest?]

@[simp] theorem remove_nil (stored : List α) : remove [] stored = stored := by
  simp [remove]

theorem mem_remove {items stored : List α} {a : α} :
    a ∈ remove items stored ↔ a ∈ stored ∧ ∀ item ∈ items, Item.id item ≠ Item.id a := by
  simp [remove]

/-! ## Stores -/

/-- Where a state keeps a value. -/
structure Shelf (σ β : Type) where
  value : σ → β
  put : β → σ → σ

variable {σ β : Type}

/-- Change what a state keeps. -/
def Shelf.change (shelf : Shelf σ β) (f : β → β) : Action σ Unit :=
  modify fun s => shelf.put (f (shelf.value s)) s

/-- A collection kept in a state. -/
def collection (shelf : Shelf σ (List α)) : CollectionStore σ α where
  list := return shelf.value (← get)
  add := fun items => do
    shelf.change (add items)
    return items
  update := fun items => shelf.change (update items)
  remove := fun items => shelf.change (remove items)

/-- Values under keys kept in a state. -/
def keyValues (shelf : Shelf σ (Fields Json)) : KeyValueStore σ where
  get? := fun key => return (shelf.value (← get)).get? key
  set := fun key value => shelf.change (·.set key value)
  erase := fun key => shelf.change (·.erase key)

end Pinboard.Memory
