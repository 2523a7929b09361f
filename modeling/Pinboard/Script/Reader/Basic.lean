import Pinboard.Script.Names
import Pinboard.Script.Token
import Pinboard.Script.Tree
import Pinboard.Text.Normal

/-!
# Readers of tokens

A reader takes tokens from the front and gives a part of a script; it fails where the tokens fit no
rule.
-/
namespace Pinboard.Script

/-- A reader of a part of a script. -/
abbrev Parse (α : Type) := StateT (List Lexeme) Option α

namespace Parse

def fail {α : Type} : Parse α := fun _ => none

def peek : Parse (Option Token) := return (← get).head?.map (·.token)

/-- The line of the next token. -/
def line : Parse Nat := return ((← get).head?.map (·.line)).getD 0

def advance : Parse Unit := modify List.tail

/-- Take a token if it comes next. -/
def accept (t : Token) : Parse Bool := do
  if (← peek) = some t then
    advance
    return true
  else return false

def expect (t : Token) : Parse Unit := do
  if !(← accept t) then fail

def acceptSign (s : String) : Parse Bool := accept (.sign s)

def expectSign (s : String) : Parse Unit := expect (.sign s)

def acceptWord (s : String) : Parse Bool := accept (.name s)

def expectWord (s : String) : Parse Unit := expect (.name s)

/-- A name that is written as no word of the language, in its normal form. -/
def identifier : Parse String := do
  match ← peek with
  | some (.name s) =>
    if keywords.contains s then fail
    else
      advance
      return Text.normal s
  | _ => fail

end Parse

open Parse

/-- The operator that one of some signs stands for, if one comes next. -/
def acceptOperator (signs : List (String × Operator)) : Parse (Option Operator) := do
  match ← peek with
  | some (.sign s) =>
    match signs.lookup s with
    | some op =>
      advance
      return some op
    | none => return none
  | _ => return none

/-- A text with the texts that directly follow it. -/
def joinedText : Nat → String → Parse String
  | 0, _ => fail
  | fuel + 1, before => do
    match ← peek with
    | some (.literal (.text s)) =>
      advance
      joinedText fuel (before ++ s)
    | _ => return before

/-- Operands with left-associative operators between them. -/
def chain (operand : Parse Expr) (signs : List (String × Operator)) : Nat → Expr → Parse Expr
  | 0, _ => fail
  | fuel + 1, left => do
    match ← acceptOperator signs with
    | none => return left
    | some op => chain operand signs fuel (.binary op left (← operand))

/-- Items up to a closing sign; commas stand between them and may stand after the last. -/
def itemsUntil {α : Type} (item : Parse α) (closing : String) : Nat → Parse (List α)
  | 0 => fail
  | fuel + 1 => do
    if ← acceptSign closing then return []
    let first ← item
    if ← acceptSign "," then return first :: (← itemsUntil item closing fuel)
    expectSign closing
    return [first]

/-- What follows a sign, if the sign comes next. -/
def after (s : String) (expression : Parse Expr) : Parse (Option Expr) := do
  if ← acceptSign s then some <$> expression else return none

/-! ## Arguments -/

/-- An argument of a call. -/
inductive Argument where
  | plain (e : Expr)
  | spread (items : Expr)
  | named (name : String) (e : Expr)
  | spreadNamed (entries : Expr)

def argument (expression : Parse Expr) : Parse Argument := do
  if ← acceptSign "*" then return .spread (← expression)
  if ← acceptSign "**" then return .spreadNamed (← expression)
  match ← get with
  | ⟨.name _, _⟩ :: ⟨.sign "=", _⟩ :: _ =>
    let name ← identifier
    expectSign "="
    return .named name (← expression)
  | _ => return .plain (← expression)

/-- Whether arguments stand in order: none without a name after one with a name, and no items of a
collection after the entries of a mapping. -/
def inOrder : List Argument → Bool
  | [] => true
  | .named _ _ :: rest =>
    rest.all (fun a => match a with | .plain _ => false | _ => true) && inOrder rest
  | .spreadNamed _ :: rest =>
    rest.all fun a => match a with | .named _ _ => true | .spreadNamed _ => true | _ => false
  | _ :: rest => inOrder rest

/-- The arguments without and with names. -/
def parted : List Argument → List Expr × List (Option String × Expr)
  | [] => ([], [])
  | a :: rest =>
    let (plain, named) := parted rest
    match a with
    | .plain e => (e :: plain, named)
    | .spread items => (.spread items :: plain, named)
    | .named name e => (plain, (some name, e) :: named)
    | .spreadNamed entries => (plain, (none, entries) :: named)

/-- The arguments of a call up to the closing parenthesis. -/
def arguments (expression : Parse Expr) (fuel : Nat) :
    Parse (List Expr × List (Option String × Expr)) := do
  let found ← itemsUntil (argument expression) ")" fuel
  if inOrder found then return parted found else fail

end Pinboard.Script
