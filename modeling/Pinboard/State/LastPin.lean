import Pinboard.State.Stored

/-!
# The last opened pin
-/
namespace Pinboard.LastPin

variable {σ : Type}

/-- What is stored as the id of the pin, unless it is empty. -/
def get? (storage : KeyValueStore σ) : Action σ (Option Json) := do
  return (← storage.get? Stored.lastPinKey).filter Json.isTrue

def set (storage : KeyValueStore σ) (id : String) : Action σ Unit :=
  storage.set Stored.lastPinKey (.str id)

end Pinboard.LastPin
