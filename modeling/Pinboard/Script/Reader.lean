import Pinboard.Script.Reader.Statement

/-!
# Reading scripts

A script is cut into tokens and read as a program. The fuel of the readers is more than a script of
that many tokens needs.
-/
namespace Pinboard.Script

/-- Why a script is not read. -/
inductive ReadFault where
  | malformed
  | holdsNul
  deriving DecidableEq, Repr

/-- The program of a script; none if it is malformed. -/
def read? (source : String) : Option Program := do
  let lexemes ← lex? source
  let (tree, _) ← (program (8 * lexemes.length + 32)).run lexemes
  return tree

def read (source : String) : Except ReadFault Program :=
  if source.toList.contains '\x00' then .error .holdsNul
  else
    match read? source with
    | some tree => .ok tree
    | none => .error .malformed

end Pinboard.Script
