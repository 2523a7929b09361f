import Pinboard.Text.Basic

/-!
# Arguments

A body is split at the colons that stand outside nested markers. A closing marker that closes
nothing leaves the depth as it is.
-/
namespace Pinboard.Markup

/-- Put characters in front of the first part. -/
def prepend (cs : List Char) : List (List Char) → List (List Char)
  | [] => [cs]
  | part :: parts => (cs ++ part) :: parts

/-- Split at up to `cuts` colons at depth zero, starting at a given depth. -/
def splitAt (cuts : Nat) (depth : Nat) : List Char → List (List Char)
  | [] => [[]]
  | '\x7b' :: '\x7b' :: rest => prepend ['\x7b', '\x7b'] (splitAt cuts (depth + 1) rest)
  | '\x7d' :: '\x7d' :: rest =>
    if depth = 0 then prepend ['\x7d'] (splitAt cuts depth ('\x7d' :: rest))
    else prepend ['\x7d', '\x7d'] (splitAt cuts (depth - 1) rest)
  | c :: rest =>
    if c = ':' ∧ depth = 0 then
      match cuts with
      | 0 => [c :: rest]
      | n + 1 => [] :: splitAt n 0 rest
    else prepend [c] (splitAt cuts depth rest)

/-- At most `count` arguments, the last one with all that remains; one at least. -/
def splitArguments (body : String) (count : Nat) : List String :=
  (splitAt (count - 1) 0 body.toList).map String.ofList

end Pinboard.Markup
