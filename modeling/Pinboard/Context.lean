import Pinboard.Environment
import Pinboard.Item.Pin
import Pinboard.Json.Display
import Pinboard.Settings

/-!
# Contexts

What a directive sees of one resolution: the pin that is resolved, values under names, and how deep
launches are nested. Values come from the environment, from the caller, and from directives that ran
before.
-/
namespace Pinboard

structure Context where
  pin : Option Pin
  values : Fields String
  depth : Nat
  settings : Settings

namespace Context

/-- Add named outputs to the values. -/
def withOutputs (c : Context) (outputs : Fields String) : Context :=
  { c with values := c.values.merge outputs }

/-- The context of a pin opened from inside this resolution. -/
def nested (c : Context) : Context := { c with depth := c.depth + 1 }

/-- Whether a caller's value counts as absent: nothing, blank text, or an empty collection. -/
def isNullish : Json → Bool
  | .null => true
  | .str s => Text.isBlankText s
  | .arr items => items.isEmpty
  | .obj fields => fields.isEmpty
  | _ => false

/-- The values of the environment, overridden by the caller's that count as present. -/
def gatherValues (environment : Option Environment) (extras : Fields Json) : Fields String :=
  let ambient := (environment.map Environment.flatten).getD []
  ambient.merge ((extras.filter fun (_, v) => !isNullish v).map fun (k, v) => (k, v.display))

def assemble (settings : Settings) (pin : Option Pin) (environment : Option Environment)
    (extras : Fields Json) (depth : Nat) : Context where
  pin := pin
  values := gatherValues environment extras
  depth := depth
  settings := settings

end Context
end Pinboard
