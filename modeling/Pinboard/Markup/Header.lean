import Pinboard.Fields
import Pinboard.Text.Blank
import Pinboard.Text.Number

/-!
# Headers

What stands between the name of a directive and its closing marker: parameters and flags between
blanks, then, after a colon, the body. A header is cut into tokens from left to right, a parameter
being preferred to a flag; it is refused where neither fits.
-/
namespace Pinboard.Markup

/-- A parameter value as written. -/
inductive Value where
  | quoted (quote : Char) (content : List Char)
  | bare (content : List Char)
  deriving DecidableEq, Repr

inductive Token where
  | blank (c : Char)
  | param (key : List Char) (value : Value)
  | flag (word : List Char)
  deriving DecidableEq, Repr

namespace Value

def content : Value → List Char
  | .quoted _ cs => cs
  | .bare cs => cs

def chars : Value → List Char
  | .quoted q cs => q :: cs ++ [q]
  | .bare cs => cs

end Value

namespace Token

/-- The characters that the token stands for. -/
def chars : Token → List Char
  | .blank c => [c]
  | .param key value => key ++ '=' :: value.chars
  | .flag word => word

def param? : Token → Option (String × String)
  | .param key value => some (String.ofList key, String.ofList value.content)
  | _ => none

def flag? : Token → Option String
  | .flag word => some (String.ofList word)
  | _ => none

end Token

def isKeyStart (c : Char) : Bool := c.isAlpha || c == '_'

def isKeyChar (c : Char) : Bool := Text.isWord c || c == '-'

def isQuote (c : Char) : Bool := c == '"' || c == '\''

/-- A character of a value that stands without quotes. -/
def isBareChar (c : Char) : Bool := !Text.isBlank c && c != ':' && !isQuote c

/-- A character of a flag. -/
def isFlagChar (c : Char) : Bool := isBareChar c && c != '='

def takeBare (cs : List Char) : Value × List Char :=
  (.bare (cs.takeWhile isBareChar), cs.dropWhile isBareChar)

/-- The value after an equals sign: between quotes if the quote is closed, else bare. -/
def takeValue : List Char → Value × List Char
  | [] => (.bare [], [])
  | q :: cs =>
    if isQuote q then
      match cs.dropWhile (· != q) with
      | _ :: rest => (.quoted q (cs.takeWhile (· != q)), rest)
      | [] => takeBare (q :: cs)
    else takeBare (q :: cs)

/-- A parameter at the front: a key directly followed by an equals sign and its value. -/
def takeParam? : List Char → Option (Token × List Char)
  | [] => none
  | c :: cs =>
    if isKeyStart c then
      match cs.dropWhile isKeyChar with
      | '=' :: rest =>
        let (value, after) := takeValue rest
        some (.param (c :: cs.takeWhile isKeyChar) value, after)
      | _ => none
    else none

def takeFlag? (cs : List Char) : Option (Token × List Char) :=
  match cs.takeWhile isFlagChar with
  | [] => none
  | word => some (.flag word, cs.dropWhile isFlagChar)

/-- The token at the front of a text that starts neither with a colon nor, being empty, ends. -/
def takeToken? : List Char → Option (Token × List Char)
  | [] => none
  | c :: cs =>
    if Text.isBlank c then some (.blank c, cs)
    else match takeParam? (c :: cs) with
      | some found => some found
      | none => takeFlag? (c :: cs)

/-- The tokens of a header and, after the first colon between tokens, its body. The fuel bounds the
number of tokens. -/
def readTokens? : Nat → List Char → Option (List Token × Option (List Char))
  | _, [] => some ([], none)
  | 0, _ => none
  | fuel + 1, c :: cs =>
    if c = ':' then some ([], some cs)
    else match takeToken? (c :: cs) with
      | none => none
      | some (token, rest) =>
        (readTokens? fuel rest).map fun (tokens, body) => (token :: tokens, body)

def tokens? (cs : List Char) : Option (List Token × Option (List Char)) :=
  readTokens? cs.length cs

/-- Parameters with their last values in the order in which keys first came, flags and body. -/
structure Header where
  params : Fields String
  flags : List String
  body : Option String
  deriving DecidableEq, Repr

def Header.read? (cs : List Char) : Option Header :=
  (tokens? cs).map fun (tokens, body) =>
    { params := Fields.ofList (tokens.filterMap Token.param?)
      flags := tokens.filterMap Token.flag?
      body := body.map String.ofList }

end Pinboard.Markup
