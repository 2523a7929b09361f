import Pinboard.Text.Basic

/-!
# Escaped markers

Data that is substituted into a text has its markers replaced, so that it cannot trigger directives.
-/
namespace Pinboard.Markup

def escapeChars (opening closing : List Char) (cs : List Char) : List Char :=
  Text.replacePair '\x7d' '\x7d' closing (Text.replacePair '\x7b' '\x7b' opening cs)

/-- Replace every opening and closing marker. -/
def escapeWith (opening closing s : String) : String :=
  String.ofList (escapeChars opening.toList closing.toList s.toList)

/-- Replace markers by pairs of square brackets. -/
def escape (s : String) : String := escapeWith "[[" "]]" s

end Pinboard.Markup
