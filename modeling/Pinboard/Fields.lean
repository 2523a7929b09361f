/-!
# Keyed lists

A list of keyed values that keeps the order in which keys first came: setting a key that is present
changes its value in place, a new key goes to the end.
-/
namespace Pinboard

/-- Values under keys, in the order in which the keys first came. -/
abbrev Fields (α : Type) := List (String × α)

namespace Fields

variable {α : Type}

def get? (key : String) : Fields α → Option α
  | [] => none
  | (k, v) :: rest => if k = key then some v else get? key rest

def set (key : String) (value : α) : Fields α → Fields α
  | [] => [(key, value)]
  | (k, v) :: rest => if k = key then (k, value) :: rest else (k, v) :: set key value rest

def erase (key : String) : Fields α → Fields α
  | [] => []
  | (k, v) :: rest => if k = key then erase key rest else (k, v) :: erase key rest

/-- Set every key of `new` in turn. -/
def merge (fields new : Fields α) : Fields α :=
  new.foldl (fun acc (k, v) => acc.set k v) fields

def ofList (pairs : List (String × α)) : Fields α := merge [] pairs

def keys (fields : Fields α) : List String := fields.map (·.1)

def has (key : String) (fields : Fields α) : Bool := (fields.get? key).isSome

@[simp] theorem get?_nil (key : String) : get? key ([] : Fields α) = none := rfl

theorem get?_set (fields : Fields α) (key other : String) (value : α) :
    (fields.set key value).get? other = if key = other then some value else fields.get? other := by
  induction fields with
  | nil => simp [set, get?]
  | cons head rest ih => grind [set, get?]

theorem get?_erase (fields : Fields α) (key other : String) :
    (fields.erase key).get? other = if key = other then none else fields.get? other := by
  induction fields with
  | nil => simp [erase, get?]
  | cons head rest ih => grind [erase, get?]

end Fields
end Pinboard
