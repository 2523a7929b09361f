import Pinboard.Record.Scalar
import Pinboard.Text.Basic

/-!
# Ambient data

What the host shows when a pin is used: the frontmost application, the directory, files, tab and
track in view, the selected text and the clipboard. All of it is optional. Flattened, it becomes
values under the names of the directives that report the same things.
-/
namespace Pinboard

open Record

structure AppRef where
  name : String
  path : String
  deriving DecidableEq, Repr

structure FileRef where
  name : String
  path : String
  deriving DecidableEq, Repr

structure TabRef where
  name : String
  url : String
  deriving DecidableEq, Repr

structure TrackRef where
  name : String
  artist : String
  album : String
  deriving DecidableEq, Repr

structure Environment where
  application : Option AppRef
  directory : Option FileRef
  files : List FileRef
  tab : Option TabRef
  track : Option TrackRef
  selectedText : Option String
  clipboard : Option String
  deriving DecidableEq, Repr

namespace AppRef

def toJson (a : AppRef) : Json := .obj [("name", .str a.name), ("path", .str a.path)]

def read : Reader AppRef := recordOf fun data =>
  AppRef.mk <$> defaulted "name" "" text data <*> defaulted "path" "" text data

end AppRef

namespace FileRef

def toJson (f : FileRef) : Json := .obj [("name", .str f.name), ("path", .str f.path)]

def read : Reader FileRef := recordOf fun data =>
  FileRef.mk <$> defaulted "name" "" text data <*> defaulted "path" "" text data

end FileRef

namespace TabRef

def toJson (t : TabRef) : Json := .obj [("name", .str t.name), ("url", .str t.url)]

def read : Reader TabRef := recordOf fun data =>
  TabRef.mk <$> defaulted "name" "" text data <*> defaulted "url" "" text data

end TabRef

namespace TrackRef

def toJson (t : TrackRef) : Json :=
  .obj [("name", .str t.name), ("artist", .str t.artist), ("album", .str t.album)]

def read : Reader TrackRef := recordOf fun data =>
  TrackRef.mk <$> defaulted "name" "" text data <*> defaulted "artist" "" text data
    <*> defaulted "album" "" text data

/-- A track as its name and artist; a track without a name is not described. -/
def describe? (t : TrackRef) : Option String :=
  if t.name.isEmpty then none
  else some (if t.artist.isEmpty then t.name else t.name ++ " by " ++ t.artist)

end TrackRef

/-- The paths of files, those without one left out. -/
def joinedPaths (files : List FileRef) : String :=
  Text.join ", " ((files.map (·.path)).filter fun p => !p.isEmpty)

namespace Environment

def empty : Environment := ⟨none, none, [], none, none, none, none⟩

def toJson (e : Environment) : Json :=
  .obj [("current_application", Json.ofOption AppRef.toJson e.application),
    ("current_directory", Json.ofOption FileRef.toJson e.directory),
    ("selected_files", .arr (e.files.map FileRef.toJson)),
    ("current_tab", Json.ofOption TabRef.toJson e.tab),
    ("current_track", Json.ofOption TrackRef.toJson e.track),
    ("selected_text", Json.ofOption .str e.selectedText),
    ("clipboard_text", Json.ofOption .str e.clipboard)]

def read : Reader Environment := recordOf fun data =>
  Environment.mk <$> defaulted "current_application" none (nullable AppRef.read) data
    <*> defaulted "current_directory" none (nullable FileRef.read) data
    <*> defaulted "selected_files" [] (listOf FileRef.read) data
    <*> defaulted "current_tab" none (nullable TabRef.read) data
    <*> defaulted "current_track" none (nullable TrackRef.read) data
    <*> defaulted "selected_text" none (nullable text) data
    <*> defaulted "clipboard_text" none (nullable text) data

/-- Every reading of the environment under the name of its directive, blank ones included. -/
def readings (e : Environment) : List (String × Option String) :=
  [("clipboardText", e.clipboard), ("selectedText", e.selectedText),
    ("selectedFiles", some (joinedPaths e.files)),
    ("currentAppName", e.application.map (·.name)),
    ("currentAppPath", e.application.map (·.path)),
    ("currentDirectory", e.directory.map (·.path)),
    ("currentURL", e.tab.map (·.url)), ("currentTabName", e.tab.map (·.name)),
    ("currentTrack", e.track.bind TrackRef.describe?)]

/-- A reading that is there and not blank. -/
def presentReading : String × Option String → Option (String × String)
  | (name, some s) => if Text.isBlankText s then none else some (name, s)
  | (_, none) => none

/-- The readings that are there and not blank. -/
def flatten (e : Environment) : Fields String := e.readings.filterMap presentReading

end Environment
end Pinboard
