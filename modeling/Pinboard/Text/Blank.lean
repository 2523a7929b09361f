import Pinboard.Text.Ranges

/-!
# Blanks

The white space of the bidirectional classes WS, B and S together with the separators of category
Zs. The four information separators U+001C to U+001F are blanks too.
-/
namespace Pinboard.Text

def blankRanges : Ranges :=
  [(0x9, 0xD), (0x1C, 0x20), (0x85, 0x85), (0xA0, 0xA0), (0x1680, 0x1680), (0x2000, 0x200A),
   (0x2028, 0x2029), (0x202F, 0x202F), (0x205F, 0x205F), (0x3000, 0x3000)]

def isBlank (c : Char) : Bool := blankRanges.has c

/-- A blank that may stand around a number: any but the information separators. -/
def isSpace (c : Char) : Bool := isBlank c && (c.toNat < 0x1C || 0x1F < c.toNat)

end Pinboard.Text
