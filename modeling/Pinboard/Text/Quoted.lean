import Pinboard.Number.Decimal
import Pinboard.Text.Printable

/-!
# Quoted text

A text between quotes, on one line. Single quotes are used unless the text holds single quotes and
no double ones. A backslash, the enclosing quote and whatever is not printable are escaped.
-/
namespace Pinboard.Text

def quoteFor (cs : List Char) : Char :=
  if cs.contains '\'' && !cs.contains '"' then '"' else '\''

/-- One character as it stands between `quote`s. -/
def quotedChar (quote c : Char) : List Char :=
  if c = quote ∨ c = '\\' then ['\\', c]
  else if c = '\n' then ['\\', 'n']
  else if c = '\r' then ['\\', 'r']
  else if c = '\t' then ['\\', 't']
  else if isPrintable c then [c]
  else if c.toNat < 0x100 then '\\' :: 'x' :: Number.hexDigits 2 c.toNat
  else if c.toNat < 0x10000 then '\\' :: 'u' :: Number.hexDigits 4 c.toNat
  else '\\' :: 'U' :: Number.hexDigits 8 c.toNat

def quoted (s : String) : String :=
  let quote := quoteFor s.toList
  String.ofList (quote :: s.toList.flatMap (quotedChar quote) ++ [quote])

end Pinboard.Text
