import Pinboard.Builtin.Effects
import Pinboard.Builtin.Interaction
import Pinboard.Builtin.Listing
import Pinboard.Builtin.Script
import Pinboard.Directive.Registry

/-!
# The built-in directives

All directives of the engine in their default order, and the registry of them.
-/
namespace Pinboard.Builtin

variable {σ : Type} (services : Services σ)

def directives : List (Directive σ) :=
  ambient services ++ stored services ++ effects services ++ interaction services
    ++ [script services]

/-- The names of the built-in directives with their aliases. -/
def spellingTable : List (String × List String) :=
  [("clipboardText", ["clipboard"]), ("selectedText", []),
   ("currentAppName", ["currentApp", "currentApplication"]), ("currentAppPath", []),
   ("currentDirectory", []), ("currentURL", ["currentTabURL"]),
   ("currentTabName", ["currentTabTitle"]), ("selectedFiles", []), ("currentTrack", []),
   ("date", ["currentDate"]), ("time", ["currentTime"]), ("day", ["dayName", "currentDay"]),
   ("timezone", []), ("user", ["username"]), ("homedir", ["homeDirectory"]), ("hostname", []),
   ("monthCalendar", ["calendar"]), ("pinName", []), ("pinNotes", []), ("pinNames", []),
   ("pinTargets", []), ("pins", []), ("groupNames", []), ("groups", []),
   ("previousApplication", ["previousApp", "previousAppName", "lastApp", "lastAppName",
      "lastApplication", "previousApplicationName", "lastApplicationName"]),
   ("previousPinName", ["lastPinName"]),
   ("previousPinTarget", ["lastPinTarget", "previousTarget"]), ("pinJSON", []), ("uuid", ["UUID"]),
   ("get", []), ("delay", []), ("ai", ["askAI", "AI"]), ("shell", []),
   ("launchPin", ["openPin", "runPin"]), ("launchGroup", ["openGroup"]), ("set", ["setVar"]),
   ("reset", ["resetVar"]), ("delete", ["deleteVar"]), ("copy", []), ("paste", []),
   ("ignore", ["IGNORE"]), ("alert", []), ("dialog", []), ("toast", ["hud"]), ("say", ["speak"]),
   ("input", ["prompt"]), ("createPin", []), ("deletePin", []), ("movePin", []),
   ("script", ["py", "python"])]

/-- Every spelling of a table with the name that it belongs to. -/
def claimsOf (table : List (String × List String)) : Fields String :=
  table.flatMap fun (name, aliases) => (name :: aliases).map fun s => (s, name)

theorem claims_directives : claims (directives services) = claimsOf spellingTable := rfl

theorem firstDuplicate_spellingTable : firstDuplicate? [] (claimsOf spellingTable) = none := by
  decide +kernel

/-- No two built-in directives share a spelling. -/
def registry : Registry σ :=
  ⟨directives services, claims_directives services ▸ firstDuplicate_spellingTable⟩

end Pinboard.Builtin
