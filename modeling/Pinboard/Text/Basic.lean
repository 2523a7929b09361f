import Pinboard.Text.Blank

/-!
# Operations on text

Stripping, replacing, splitting and joining. Text is handled as a list of characters; a length or
an index counts characters.
-/
namespace Pinboard.Text

/-- Remove the characters of a class at both ends. -/
def stripOf (p : Char → Bool) (cs : List Char) : List Char :=
  ((cs.dropWhile p).reverse.dropWhile p).reverse

/-- Remove the blanks at both ends. -/
def stripChars (cs : List Char) : List Char := stripOf isBlank cs

def strip (s : String) : String := String.ofList (stripChars s.toList)

/-- Whether a text has no character but blanks. -/
def isBlankText (s : String) : Bool := s.toList.all isBlank

/-- Remove the trailing characters equal to `x`. -/
def dropTrailing (x : Char) (s : String) : String :=
  String.ofList (s.toList.reverse.dropWhile (· == x)).reverse

/-- Replace each pair `x y`, left to right, by `replacement`. -/
def replacePair (x y : Char) (replacement : List Char) : List Char → List Char
  | [] => []
  | [c] => [c]
  | c :: d :: rest =>
    if c = x ∧ d = y then replacement ++ replacePair x y replacement rest
    else c :: replacePair x y replacement (d :: rest)

/-- Replace one character by another. -/
def replaceChar (x y : Char) (s : String) : String :=
  String.ofList (s.toList.map fun c => if c = x then y else c)

/-- The part of `cs` after the first occurrence of `needle`, with the part before it. -/
def cutAt (needle : List Char) : List Char → Option (List Char × List Char)
  | [] => if needle.isEmpty then some ([], []) else none
  | c :: cs =>
    if needle.isPrefixOf (c :: cs) then some ([], (c :: cs).drop needle.length)
    else (cutAt needle cs).map fun (before, after) => (c :: before, after)

def contains (needle hay : String) : Bool := (cutAt needle.toList hay.toList).isSome

def startsWith (start s : String) : Bool := start.toList.isPrefixOf s.toList

def join (separator : String) (parts : List String) : String := separator.intercalate parts

def take (n : Nat) (s : String) : String := String.ofList (s.toList.take n)

def drop (n : Nat) (s : String) : String := String.ofList (s.toList.drop n)

end Pinboard.Text
