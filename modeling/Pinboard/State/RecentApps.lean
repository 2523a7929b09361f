import Pinboard.State.Stored

/-!
# Recent applications

The applications that were frontmost lately, each once, the latest first. The list is cut to a fixed
length each time an application is recorded.
-/
namespace Pinboard.RecentApps

variable {σ : Type}

def limit : Nat := 10

/-- Whether a stored item has fields; others are passed over. -/
def isRecord : Json → Bool
  | .obj _ => true
  | _ => false

/-- Move an application to the front, unless it is to be ignored. -/
def promote (app : AppRef) (ignored : List String) (apps : List AppRef) : List AppRef :=
  let others := apps.filter fun a => a.name != app.name && !ignored.contains a.name
  (if ignored.contains app.name then others else app :: others).take limit

theorem length_promote_le (app : AppRef) (ignored : List String) (apps : List AppRef) :
    (promote app ignored apps).length ≤ limit := by
  simp only [promote, List.length_take]
  exact Nat.min_le_left _ _

def load (storage : KeyValueStore σ) : Action σ (List AppRef) := do
  let items ← Stored.load storage Stored.recentAppsKey
  (items.filter isRecord).mapM fun item => Action.ofChecked "AppRef" (AppRef.read item)

def record (storage : KeyValueStore σ) (app : AppRef) (ignored : List String) :
    Action σ (List AppRef) := do
  let apps := promote app ignored (← load storage)
  Stored.save storage Stored.recentAppsKey (apps.map AppRef.toJson)
  pure apps

end Pinboard.RecentApps
