import Pinboard.Script.Reader.Signature

/-!
# Reading expressions

Of two operators next to each other the one that binds more tightly comes first: attributes, calls
and look-ups, then signs, products, sums, and equality. The fuel of a reader bounds the depth of its
calls.
-/
namespace Pinboard.Script

open Parse

def sumSigns : List (String × Operator) := [("+", .plus), ("-", .minus)]

def productSigns : List (String × Operator) :=
  [("*", .times), ("/", .divide), ("//", .floorDivide), ("%", .modulo)]

mutual

def expression : Nat → Parse Expr
  | 0 => fail
  | fuel + 1 => do
    if ← acceptWord "lambda" then
      let parts ← signature (expression fuel) false ":" fuel
      return .function parts (← expression fuel)
    let first ← sum fuel
    match ← equals fuel with
    | [] => return first
    | rest => return .equal first rest

/-- The operands after equality signs. -/
def equals : Nat → Parse (List Expr)
  | 0 => fail
  | fuel + 1 => do
    if ← acceptSign "==" then
      let next ← sum fuel
      return next :: (← equals fuel)
    return []

def sum : Nat → Parse Expr
  | 0 => fail
  | fuel + 1 => do chain (product fuel) sumSigns fuel (← product fuel)

def product : Nat → Parse Expr
  | 0 => fail
  | fuel + 1 => do chain (factor fuel) productSigns fuel (← factor fuel)

def factor : Nat → Parse Expr
  | 0 => fail
  | fuel + 1 => do
    if ← acceptSign "-" then return .negate (← factor fuel)
    if ← acceptWord "await" then return .await (← primary fuel)
    primary fuel

def primary : Nat → Parse Expr
  | 0 => fail
  | fuel + 1 => do
    let start ← line
    let base ← atom fuel
    trailers start fuel base

/-- Attributes, calls and indices after an expression that starts on a line. -/
def trailers (start : Nat) : Nat → Expr → Parse Expr
  | 0, _ => fail
  | fuel + 1, base => do
    if ← acceptSign "." then trailers start fuel (.attribute start base (← identifier))
    else if ← acceptSign "(" then
      let (args, named) ← arguments (expression fuel) fuel
      trailers start fuel (.call base args named)
    else if ← acceptSign "[" then
      let index ← subscript fuel
      trailers start fuel (.item base index)
    else return base

def atom : Nat → Parse Expr
  | 0 => fail
  | fuel + 1 => do
    let start ← line
    match ← peek with
    | some (.literal (.text _)) => return .literal (.text (← joinedText fuel ""))
    | some (.literal l) =>
      advance
      return .literal l
    | some (.sign "[") =>
      advance
      return .list (← itemsUntil (expression fuel) "]" fuel)
    | some (.sign "(") =>
      advance
      group fuel
    | some (.sign "\x7b") =>
      advance
      return .mapping (← itemsUntil (entry fuel) "\x7d" fuel)
    | some (.name "None") =>
      advance
      return .literal .none
    | some (.name "True") =>
      advance
      return .literal (.truth true)
    | some (.name "False") =>
      advance
      return .literal (.truth false)
    | _ => return .name start (← identifier)

/-- What follows an opening parenthesis: an expression, or the items of a tuple. -/
def group : Nat → Parse Expr
  | 0 => fail
  | fuel + 1 => do
    if ← acceptSign ")" then return .tuple []
    let first ← expression fuel
    if ← acceptSign "," then
      return .tuple (first :: (← itemsUntil (expression fuel) ")" fuel))
    expectSign ")"
    return first

/-- What an item is looked up by, up to the closing bracket: an expression, or a tuple. -/
def subscript : Nat → Parse Expr
  | 0 => fail
  | fuel + 1 => do
    let first ← expression fuel
    if ← acceptSign "," then
      return .tuple (first :: (← itemsUntil (expression fuel) "]" fuel))
    expectSign "]"
    return first

/-- A key, a colon and a value. -/
def entry : Nat → Parse (Expr × Expr)
  | 0 => fail
  | fuel + 1 => do
    let key ← expression fuel
    expectSign ":"
    return (key, ← expression fuel)

end

end Pinboard.Script
