import Pinboard.Text.CombiningClass
import Pinboard.Text.Compatibility
import Pinboard.Text.Composition

/-!
# Normal form of names

Names that look alike are one name. Characters that stand for others are replaced, composed letters
are taken apart, marks are put in the order of their classes, and what can be composed is composed
again.
-/
namespace Pinboard.Text

/-- The parts of a character. The fuel bounds how often parts have parts of their own. -/
def partsOf : Nat → Nat → List Nat
  | 0, c => [c]
  | fuel + 1, c =>
    match syllableParts? c with
    | some parts => parts
    | none =>
      match pairOf? c with
      | some (a, b) => partsOf fuel a ++ partsOf fuel b
      | none => (meant? c).getD [c]

/-- Put a character behind others, which are held last first; a mark goes before marks of a higher
class. -/
def insertMark (c : Nat) : List Nat → List Nat
  | [] => [c]
  | d :: before =>
    if combiningClass c ≠ 0 ∧ combiningClass c < combiningClass d then d :: insertMark c before
    else c :: d :: before

/-- Each row of marks in the order of their classes. -/
def orderMarks (cs : List Nat) : List Nat :=
  (cs.foldl (fun before c => insertMark c before) []).reverse

/-- Compose what follows a letter with it. Marks that stay apart are held last first; one of the
same class or a higher one keeps a mark from the letter. -/
def composeAfter (letter : Nat) (held : List Nat) : List Nat → List Nat
  | [] => letter :: held.reverse
  | c :: cs =>
    let reaches := held.head?.all fun d => combiningClass d < combiningClass c
    match if reaches then compose? letter c else none with
    | some made => composeAfter made held cs
    | none =>
      if combiningClass c = 0 then letter :: held.reverse ++ composeAfter c [] cs
      else composeAfter letter (c :: held) cs

def composeAll : List Nat → List Nat
  | [] => []
  | c :: cs => composeAfter c [] cs

/-- The normal form of a name; plain letters, digits and underscores stay as they are. -/
def normal (s : String) : String :=
  if s.toList.all fun c => c.toNat < 0x80 then s
  else
    let parts := s.toList.flatMap fun c => partsOf 4 c.toNat
    String.ofList ((composeAll (orderMarks parts)).map Char.ofNat)

end Pinboard.Text
