import Pinboard.Number.Decimal

/-!
# Percent encoding

The UTF-8 octets of characters that may not stand in a URI are written as a percent sign and two
hexadecimal digits. Characters with a meaning in URIs stay as they are.
-/
namespace Pinboard.Text

/-- The punctuation that is left alone. -/
def uriPunctuation : List Char := ";,/?:@&=+$-_.!~*'()#".toList

def isUriChar (c : Char) : Bool := c.isAlphanum || uriPunctuation.contains c

/-- The UTF-8 octets of a code point. -/
def utf8 (n : Nat) : List Nat :=
  if n < 0x80 then [n]
  else if n < 0x800 then [0xC0 + n / 0x40, 0x80 + n % 0x40]
  else if n < 0x10000 then [0xE0 + n / 0x1000, 0x80 + n / 0x40 % 0x40, 0x80 + n % 0x40]
  else [0xF0 + n / 0x40000, 0x80 + n / 0x1000 % 0x40, 0x80 + n / 0x40 % 0x40, 0x80 + n % 0x40]

/-- A hexadecimal digit, capital letters. -/
def hexCapital (n : Nat) : Char := if n < 10 then Char.ofNat (48 + n) else Char.ofNat (55 + n)

def octetEscape (n : Nat) : List Char := ['%', hexCapital (n / 16), hexCapital (n % 16)]

def percentChar (c : Char) : List Char :=
  if isUriChar c then [c] else (utf8 c.toNat).flatMap octetEscape

def percentEncode (s : String) : String := String.ofList (s.toList.flatMap percentChar)

end Pinboard.Text
