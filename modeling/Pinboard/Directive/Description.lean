import Pinboard.Text.Basic

/-!
# Descriptions

A directive is described by the first paragraph of its documentation, as one line. The common
indentation of all lines after the first is dropped, and tabs reach to the next multiple of eight
columns.
-/
namespace Pinboard.Directive

/-- Replace tabs by spaces; `column` is the place in the line. -/
def expandTabs (column : Nat) : List Char → List Char
  | [] => []
  | c :: cs =>
    if c = '\t' then
      let width := 8 - column % 8
      List.replicate width ' ' ++ expandTabs (column + width) cs
    else if c = '\n' ∨ c = '\r' then c :: expandTabs 0 cs
    else c :: expandTabs (column + 1) cs

/-- Cut at line feeds. -/
def lines : List Char → List (List Char)
  | [] => [[]]
  | c :: cs =>
    if c = '\n' then [] :: lines cs
    else match lines cs with
      | [] => [[c]]
      | l :: ls => (c :: l) :: ls

/-- The number of blanks before the text of a line that has any. -/
def indentation? (line : List Char) : Option Nat :=
  if line.all Text.isBlank then none else some (line.takeWhile Text.isBlank).length

/-- The least indentation of the lines that have text. -/
def commonIndentation? (lines : List (List Char)) : Option Nat :=
  (lines.filterMap indentation?).foldl (fun m n => some (m.elim n (min n))) none

def dedent : List (List Char) → List (List Char)
  | [] => []
  | first :: rest =>
    let margin := (commonIndentation? rest).getD 0
    first.dropWhile Text.isBlank :: rest.map (·.drop margin)

/-- Drop the empty lines at both ends. -/
def trimLines (lines : List (List Char)) : List (List Char) :=
  ((lines.reverse.dropWhile (·.isEmpty)).reverse).dropWhile (·.isEmpty)

/-- The first paragraph of a documentation text, its lines joined by spaces. -/
def describe (doc : String) : String :=
  let paragraph := (trimLines (dedent (lines (expandTabs 0 doc.toList)))).takeWhile (!·.isEmpty)
  String.ofList ([' '].intercalate paragraph)

end Pinboard.Directive
