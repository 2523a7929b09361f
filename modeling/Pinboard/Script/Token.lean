import Pinboard.Script.Literal

/-!
# Tokens of scripts

A script is cut into names, literals and signs. Line ends count outside brackets, and a change of
indentation at the start of a line opens or closes blocks. Blank lines and comments give nothing.
-/
namespace Pinboard.Script

inductive Token where
  | name (text : String)
  | literal (value : Literal)
  | sign (text : String)
  | lineEnd
  | open_
  | close
  deriving DecidableEq, Repr

/-- A token and the line on which it starts. -/
structure Lexeme where
  token : Token
  line : Nat
  deriving DecidableEq, Repr

/-! ## Characters -/

/-- A space that separates tokens on one line. -/
def isSpace (c : Char) : Bool := c == ' ' || c == '\t' || c == '\x0c'

/-- Write every line end as a line feed; a return and a line feed together are one. -/
def unifyLineEnds : List Char → List Char
  | [] => []
  | '\r' :: '\n' :: cs => '\n' :: unifyLineEnds cs
  | '\r' :: cs => '\n' :: unifyLineEnds cs
  | c :: cs => c :: unifyLineEnds cs

/-- Close the last line, unless the script is empty. -/
def closeLine (cs : List Char) : List Char :=
  if cs.isEmpty || cs.getLast? = some '\n' then cs else cs ++ ['\n']

/-- Drop a comment. -/
def dropComment (cs : List Char) : List Char :=
  match cs with
  | '#' :: _ => cs.dropWhile (· != '\n')
  | _ => cs

/-! ## Indentation -/

/-- How far a line is indented, where tabs reach to multiples of eight columns, and where they count
as one. The two have to agree on which lines are indented further. -/
structure Indent where
  wide : Nat
  narrow : Nat
  deriving DecidableEq, Repr

/-- The indentation at the front of a line, what follows, and the line ends in between. A form feed
starts anew. The end of a line may be hidden by a backslash; then the first part that is indented
counts. -/
def takeIndent? (here : Indent) (fixed : Option Nat) (lines : Nat) :
    List Char → Option (Indent × Nat × List Char)
  | ' ' :: cs => takeIndent? ⟨here.wide + 1, here.narrow + 1⟩ fixed lines cs
  | '\t' :: cs => takeIndent? ⟨here.wide + 8 - here.wide % 8, here.narrow + 1⟩ fixed lines cs
  | '\x0c' :: cs => takeIndent? ⟨0, 0⟩ fixed lines cs
  | '\\' :: '\n' :: cs =>
    if cs.isEmpty then none
    else
      takeIndent? here (if fixed.getD 0 = 0 then some here.wide else fixed) (lines + 1) cs
  | '\\' :: _ => none
  | cs =>
    match fixed with
    | some (n + 1) => some (⟨n + 1, n + 1⟩, lines, cs)
    | _ => some (here, lines, cs)

/-- More open blocks than this are not read. -/
def blockLimit : Nat := 100

/-- More open brackets than this are not read. -/
def bracketLimit : Nat := 200

/-- The tokens for a line's indentation, given those of the open blocks, innermost first; none if it
fits no open block. -/
def indent? (here : Indent) (blocks : List Indent) : Option (List Token × List Indent) :=
  let inner := blocks.takeWhile (here.wide < ·.wide)
  let outer := blocks.dropWhile (here.wide < ·.wide)
  match outer with
  | [] => none
  | block :: _ =>
    if block = here then some (inner.map fun _ => .close, outer)
    else if inner.isEmpty && block.wide < here.wide && block.narrow < here.narrow
        && outer.length < blockLimit then
      some ([.open_], here :: outer)
    else none

/-! ## Signs -/

def longSigns : List String := ["**", "//", "==", "!=", "<=", ">=", "->", ":="]

def shortSigns : List Char :=
  ['+', '-', '*', '/', '%', '(', ')', '[', ']', '\x7b', '\x7d', ',', ':', '.', '=', '<', '>', '@',
    '&', '|', '^', '~', ';']

/-- The sign at the front, the longer of two that fit. -/
def takeSign? (cs : List Char) : Option (String × List Char) :=
  match longSigns.find? fun s => s.toList.isPrefixOf cs with
  | some s => some (s, cs.drop s.length)
  | none =>
    match cs with
    | c :: rest => if shortSigns.contains c then some (c.toString, rest) else none
    | [] => none

def isOpening (s : String) : Bool := s == "(" || s == "[" || s == "\x7b"

def isClosing (s : String) : Bool := s == ")" || s == "]" || s == "\x7d"

/-! ## Lines -/

/-- Where the reading of a script stands. -/
structure Place where
  line : Nat
  /-- The indentations of the open blocks, innermost first. -/
  blocks : List Indent
  /-- Open brackets. -/
  depth : Nat

/-- Whether a number is at the front: a digit, perhaps after a point. -/
def startsNumber : List Char → Bool
  | '.' :: c :: _ => Json.isAsciiDigit c
  | c :: _ => Json.isAsciiDigit c
  | [] => false

/-- One token at the front of a text that starts neither with a space, a comment nor a line end, and
the line ends in it. -/
def takeToken? (cs : List Char) : Option (Token × Nat × List Char) :=
  if startsText cs then (takeText? cs).map fun (l, lines, rest) => (.literal l, lines, rest)
  else if startsNumber cs then (takeNumber? cs).map fun (l, rest) => (.literal l, 0, rest)
  else if (cs.head?.map Text.isIdentifierStart).getD false then
    some (.name (String.ofList (cs.takeWhile Text.isIdentifierPart)), 0,
      cs.dropWhile Text.isIdentifierPart)
  else (takeSign? cs).map fun (s, rest) => (.sign s, 0, rest)

/-- The place after a token; none if too many brackets are open. -/
def Place.after? (p : Place) (t : Token) (lines : Nat) : Option Place :=
  let next := { p with line := p.line + lines }
  match t with
  | .sign s =>
    if isOpening s then
      if p.depth < bracketLimit then some { next with depth := p.depth + 1 } else none
    else if isClosing s then some { next with depth := p.depth - 1 }
    else some next
  | _ => some next

/-- The tokens that end a script. -/
def finish? (p : Place) : Option (List Lexeme) :=
  if p.depth = 0 then some ((p.blocks.dropLast).map fun _ => ⟨.close, p.line⟩) else none

/-- The tokens from a place on; `fresh` says that a line starts. The fuel bounds the steps. -/
def lexFrom : Nat → Place → Bool → List Char → Option (List Lexeme)
  | 0, _, _, _ => none
  | fuel + 1, p, true, cs => do
    let (here, lines, rest) ← takeIndent? ⟨0, 0⟩ none 0 cs
    let p := { p with line := p.line + lines }
    match dropComment rest with
    | [] => finish? p
    | '\n' :: after => lexFrom fuel { p with line := p.line + 1 } true after
    | rest =>
      let (tokens, blocks) ← indent? here p.blocks
      let more ← lexFrom fuel { p with blocks } false rest
      return (tokens.map fun t => ⟨t, p.line⟩) ++ more
  | fuel + 1, p, false, cs =>
    match dropComment (cs.dropWhile isSpace) with
    | [] => (finish? p).map (⟨.lineEnd, p.line⟩ :: ·)
    | '\\' :: '\n' :: after =>
      if after.isEmpty then none else lexFrom fuel { p with line := p.line + 1 } false after
    | '\n' :: after =>
      let next := { p with line := p.line + 1 }
      if p.depth = 0 then (lexFrom fuel next true after).map (⟨.lineEnd, p.line⟩ :: ·)
      else lexFrom fuel next false after
    | rest => do
      let (t, lines, after) ← takeToken? rest
      let next ← p.after? t lines
      return ⟨t, p.line⟩ :: (← lexFrom fuel next false after)

/-- The tokens of a script; none if it cannot be cut into tokens. -/
def lex? (source : String) : Option (List Lexeme) :=
  let cs := closeLine (unifyLineEnds source.toList)
  lexFrom (2 * cs.length + 2) ⟨1, [⟨0, 0⟩], 0⟩ true cs

end Pinboard.Script
