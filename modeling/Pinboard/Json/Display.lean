import Pinboard.Json.Basic
import Pinboard.Number.Shortest
import Pinboard.Text.Quoted

/-!
# Display of values

The text that stands for a value inside other text. A string stands for itself; inside a container
it is quoted.
-/
namespace Pinboard.Json

mutual

/-- A value as an element of a container. -/
def shown : Json → String
  | .null => "None"
  | .bool b => if b then "True" else "False"
  | .int i => Number.intText i
  | .real x => x.text
  | .str s => Text.quoted s
  | .arr items => "[" ++ shownItems items ++ "]"
  | .obj fields => "\x7b" ++ shownFields fields ++ "\x7d"

def shownItems : List Json → String
  | [] => ""
  | [v] => shown v
  | v :: w :: rest => shown v ++ ", " ++ shownItems (w :: rest)

def shownFields : List (String × Json) → String
  | [] => ""
  | [(k, v)] => Text.quoted k ++ ": " ++ shown v
  | (k, v) :: f :: rest => Text.quoted k ++ ": " ++ shown v ++ ", " ++ shownFields (f :: rest)

end

/-- The word for the kind of a value. -/
def kind : Json → String
  | .null => "NoneType"
  | .bool _ => "bool"
  | .int _ => "int"
  | .real _ => "float"
  | .str _ => "str"
  | .arr _ => "list"
  | .obj _ => "dict"

/-- A value inside other text. -/
def display : Json → String
  | .str s => s
  | v => shown v

end Pinboard.Json
