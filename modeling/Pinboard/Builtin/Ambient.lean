import Pinboard.Builtin.Basic
import Pinboard.State.RecentApps
import Pinboard.Time.MonthTable

/-!
# Ambient readings

Directives that report what the host shows, the date and time, and the machine. Each value stays the
same in one resolution.
-/
namespace Pinboard.Builtin

variable {σ : Type} (services : Services σ)

/-- A reading from the host under a name. -/
def reading (name description : String) (read : Platform σ → Action σ String) : Directive σ :=
  constant name description fun _ _ _ => do
    let platform ← services.needPlatform
    let value ← read platform
    pure (remembered name value)

def clipboardText : Directive σ :=
  { reading services "clipboardText" "The text currently on the clipboard." fun p => do
      pure ((← p.clipboard).getD "") with
    aliases := ["clipboard"] }

def selectedText : Directive σ :=
  reading services "selectedText" "The text currently selected in the frontmost application."
    fun p => do pure ((← p.selectedText).getD "")

def currentAppName : Directive σ :=
  { reading services "currentAppName" "The name of the frontmost application." fun p => do
      pure (((← p.application).map (·.name)).getD "") with
    aliases := ["currentApp", "currentApplication"] }

def currentAppPath : Directive σ :=
  reading services "currentAppPath" "The path of the frontmost application." fun p => do
    pure (((← p.application).map (·.path)).getD "")

def currentDirectory : Directive σ :=
  reading services "currentDirectory" "The directory shown in the frontmost file browser window."
    fun p => do pure (((← p.directory).map (·.path)).getD "")

def currentURL : Directive σ :=
  { reading services "currentURL" "The URL of the active browser tab." fun p => do
      pure (((← p.tab).map (·.url)).getD "") with
    aliases := ["currentTabURL"] }

def currentTabName : Directive σ :=
  { reading services "currentTabName" "The title of the active browser tab." fun p => do
      pure (((← p.tab).map (·.name)).getD "") with
    aliases := ["currentTabTitle"] }

def selectedFiles : Directive σ :=
  reading services "selectedFiles"
    "Comma-separated paths of the files selected in the file browser." fun p => do
      pure (joinedPaths (← p.files))

def currentTrack : Directive σ :=
  reading services "currentTrack" "The currently playing track, as 'name by artist'." fun p => do
    pure (((← p.track).bind TrackRef.describe?).getD "")

/-- The present moment under a format, which a parameter may choose. -/
def formattedNow (name description : String) (usual : Settings → String) : Directive σ :=
  constant name description fun m context _ => do
    let now ← services.host.now
    let pattern := (givenParam? m "format").getD (usual context.settings)
    pure (rememberedUnlessShaped m name (Time.format now.date now.clock pattern))

def date : Directive σ :=
  { formattedNow services "date"
      "The current date, formatted with strftime (``format=`` overrides)." (·.dateFormat) with
    aliases := ["currentDate"]
    example_ := marked "date format=\"%d %B %Y\"" }

def time : Directive σ :=
  { formattedNow services "time"
      "The current time, formatted with strftime (``format=`` overrides)." (·.timeFormat) with
    aliases := ["currentTime"]
    example_ := marked "time format=\"%H:%M\"" }

def day : Directive σ :=
  { constant "day" "The name of the current weekday." fun _ _ _ => do
      pure (remembered "day" (← services.host.now).date.dayName) with
    aliases := ["dayName", "currentDay"] }

/-- A fixed fact about the machine. -/
def fact (name description value : String) : Directive σ :=
  constant name description fun _ _ _ => pure (remembered name value)

def timezone : Directive σ :=
  fact "timezone" "The name of the local timezone." services.host.zone

def user : Directive σ :=
  { fact "user" "The current user's login name." services.host.user with
    aliases := ["username"] }

def homedir : Directive σ :=
  { fact "homedir" "The current user's home directory." services.host.home with
    aliases := ["homeDirectory"] }

def hostname : Directive σ :=
  fact "hostname" "The machine's host name." services.host.name

def monthCalendar : Directive σ :=
  { constant "monthCalendar" "A table of the current month, weeks starting on Sunday."
      fun _ _ _ => do
        pure (remembered "monthCalendar" (Time.monthTable (← services.host.now).date)) with
    aliases := ["calendar"] }

/-- A rule that asks for a number of recent applications. -/
def minRecentApplications (count : Nat) : Rule σ where
  name := "min_recent_applications_" ++ Number.natText count
  check := fun _ _ => do
    pure (decide (count ≤ (← RecentApps.load services.storage).length))

def previousApplication : Directive σ :=
  { constant "previousApplication" "The application focused before the current one."
      fun _ _ _ => do
        let recents ← RecentApps.load services.storage
        let app ← Action.demand .noItem recents[1]?
        pure (remembered "previousApplication" app.name) with
    aliases := ["previousApp", "previousAppName", "lastApp", "lastAppName", "lastApplication",
      "previousApplicationName", "lastApplicationName"]
    rules := [minRecentApplications services 2] }

def ambient : List (Directive σ) :=
  [clipboardText services, selectedText services, currentAppName services,
    currentAppPath services, currentDirectory services, currentURL services,
    currentTabName services, selectedFiles services, currentTrack services, date services,
    time services, day services, timezone services, user services, homedir services,
    hostname services, monthCalendar services]

end Pinboard.Builtin
