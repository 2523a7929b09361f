import Pinboard.Script.Reader.Expression

/-!
# Reading statements

Statements without a block stand in lines, perhaps several with semicolons between them. A block is
indented further than the line that it belongs to, or follows on that line.
-/
namespace Pinboard.Script

open Parse

/-! ## Rows -/

/-- Whether a simple statement ends here. -/
def atEnd : Parse Bool := do
  match ← peek with
  | some .lineEnd | some (.sign ";") | none => return true
  | _ => return false

/-- The expressions after a comma, up to the end of a statement or to an equals sign. -/
def others (expression : Parse Expr) : Nat → Parse (List Expr)
  | 0 => fail
  | fuel + 1 => do
    if ← atEnd then return []
    if (← peek) = some (.sign "=") then return []
    let next ← expression
    if ← acceptSign "," then return next :: (← others expression fuel)
    return [next]

/-- An expression alone, or a tuple of expressions with commas between them. -/
def row (fuel : Nat) : Parse Expr := do
  let first ← expression fuel
  if ← acceptSign "," then return .tuple (first :: (← others (expression fuel) fuel))
  return first

/-! ## Assignments -/

/-- Whether something can be assigned to an expression. -/
def isTarget : Expr → Bool
  | .name _ _ | .attribute _ _ _ | .item _ _ => true
  | _ => false

/-- What stands after equals signs. -/
def assigned (side : Parse Expr) : Nat → Parse (List Expr)
  | 0 => fail
  | fuel + 1 => do
    if ← acceptSign "=" then
      let next ← side
      return next :: (← assigned side fuel)
    return []

/-- An expression, or an assignment to one target or more. -/
def expressionOrAssignment (fuel : Nat) : Parse Stmt := do
  let first ← row fuel
  let rest ← assigned (row fuel) fuel
  let all := first :: rest
  match all.reverse with
  | value :: target :: more =>
    if (target :: more).all isTarget then return .assign (target :: more).reverse value else fail
  | _ => return .expr first

/-! ## Imports -/

/-- A module's name, with names after points. -/
def dottedName : Nat → Parse Unit
  | 0 => fail
  | fuel + 1 => do
    let _ ← identifier
    if ← acceptSign "." then dottedName fuel

/-- Another name after something imported, if one is given. -/
def otherName : Parse Unit := do
  if ← acceptWord "as" then
    let _ ← identifier

/-- Names with commas between them. -/
def nameList (name : Parse Unit) : Nat → Parse Unit
  | 0 => fail
  | fuel + 1 => do
    name
    if ← acceptSign "," then nameList name fuel

/-- Whether points stand in front of a module's name; they are taken. -/
def leadingPoints : Nat → Parse Bool
  | 0 => fail
  | fuel + 1 => do
    if ← acceptSign "." then
      let _ ← leadingPoints fuel
      return true
    return false

def importedModules (fuel : Nat) : Parse Unit :=
  nameList (do dottedName fuel; otherName) fuel

def importedName : Parse Unit := do
  let _ ← identifier
  otherName

/-- The module and the names of an import from it. -/
def importedNames (fuel : Nat) : Parse Unit := do
  let relative ← leadingPoints fuel
  if !(relative && (← peek) = some (.name "import")) then dottedName fuel
  expectWord "import"
  if !(← acceptSign "*") then
    if ← acceptSign "(" then
      if (← itemsUntil importedName ")" fuel).isEmpty then fail
    else nameList importedName fuel

/-! ## Lines -/

/-- A statement without a block. -/
def simple (fuel : Nat) : Parse Stmt := do
  let start ← line
  match ← peek with
  | some (.name "pass") =>
    advance
    return .pass
  | some (.name "import") =>
    advance
    importedModules fuel
    return .import_ start
  | some (.name "from") =>
    advance
    importedNames fuel
    return .import_ start
  | some (.name "global") =>
    advance
    nameList (do let _ ← identifier) fuel
    return .global start
  | some (.name "nonlocal") =>
    advance
    nameList (do let _ ← identifier) fuel
    return .nonlocal start
  | some (.name "raise") =>
    advance
    if ← atEnd then return .raise none
    return .raise (some (← expression fuel))
  | some (.name "return") =>
    advance
    if ← atEnd then return .return_ none
    return .return_ (some (← row fuel))
  | _ => expressionOrAssignment fuel

/-- The simple statements of one line. -/
def simpleLine : Nat → Parse (List Stmt)
  | 0 => fail
  | fuel + 1 => do
    let first ← simple fuel
    if ← acceptSign ";" then
      if ← accept .lineEnd then return [first]
      return first :: (← simpleLine fuel)
    expect .lineEnd
    return [first]

/-! ## Blocks -/

/-- The classes that a class is built on, and its named arguments. -/
def baseClasses (fuel : Nat) : Parse (List Expr × List (Option String × Expr)) := do
  if ← acceptSign "(" then arguments (expression fuel) fuel else return ([], [])

mutual

/-- The statements of a line, or one with blocks. -/
def statements : Nat → Parse (List Stmt)
  | 0 => fail
  | fuel + 1 => do
    let start ← line
    if ← acceptWord "while" then
      let test ← expression fuel
      return [.while_ test (← block fuel)]
    if ← acceptWord "try" then
      let body ← block fuel
      let found ← handlers fuel
      if found.isEmpty then fail
      return [.try_ body found]
    if ← acceptWord "async" then
      expectWord "def"
      return [← definition start fuel]
    if ← acceptWord "def" then return [← definition start fuel]
    if ← acceptWord "class" then
      let name ← identifier
      let (bases, named) ← baseClasses fuel
      return [.class_ start name bases named (← block fuel)]
    simpleLine fuel

def definition (start : Nat) : Nat → Parse Stmt
  | 0 => fail
  | fuel + 1 => do
    let name ← identifier
    expectSign "("
    let parts ← signature (expression fuel) true ")" fuel
    let result ← after "->" (expression fuel)
    return .define start name parts (← block fuel) result

/-- The handlers after a tried block. -/
def handlers : Nat → Parse (List Handler)
  | 0 => fail
  | fuel + 1 => do
    let start ← line
    if ← acceptWord "except" then
      let type ←
        if (← peek) = some (.sign ":") then pure none else some <$> expression fuel
      let bound ←
        if type.isSome then
          if ← acceptWord "as" then some <$> identifier else pure none
        else pure none
      let body ← block fuel
      return .mk start type bound body :: (← handlers fuel)
    return []

/-- A colon and what belongs under it. -/
def block : Nat → Parse (List Stmt)
  | 0 => fail
  | fuel + 1 => do
    expectSign ":"
    if ← accept .lineEnd then
      expect .open_
      indented fuel
    else simpleLine fuel

/-- Statements up to the end of a block. -/
def indented : Nat → Parse (List Stmt)
  | 0 => fail
  | fuel + 1 => do
    let first ← statements fuel
    if ← accept .close then return first
    return first ++ (← indented fuel)

end

/-- Statements up to the end of the script. -/
def program : Nat → Parse Program
  | 0 => fail
  | fuel + 1 => do
    if (← get).isEmpty then return []
    let first ← statements fuel
    return first ++ (← program fuel)

end Pinboard.Script
