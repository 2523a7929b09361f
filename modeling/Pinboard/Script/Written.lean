import Pinboard.Script.Reader

/-!
# Scripts written out

A checked script is written out before it is run, and read again by the one who runs it. Names are
written in their normal form, and a name whose normal form is a word of the language is read again
as that word: the words for values become values, and the others do not fit where a name stands.
-/
namespace Pinboard.Script

/-- Why a script that was written out cannot be run. -/
inductive WriteFault where
  /-- A whole number has too many digits to be written. -/
  | numberTooLong
  /-- What is written is no script. -/
  | malformed
  deriving DecidableEq, Repr

abbrev Reread (α : Type) := Except WriteFault α

/-- Whether a whole number has more digits than are written. -/
def isTooLong (n : Nat) : Bool := 10 ^ Number.digitLimit ≤ n

/-- A name that is not read as a value: an attribute, a parameter or what is defined or assigned
to. -/
def keptName (id : String) : Reread String :=
  if keywords.contains id then .error .malformed else .ok id

/-- The expression that a name is read as. -/
def rereadName (line : Nat) (id : String) : Reread Expr :=
  if id = "None" then .ok (.literal .none)
  else if id = "True" then .ok (.literal (.truth true))
  else if id = "False" then .ok (.literal (.truth false))
  else (keptName id).map (.name line)

def rereadLiteral : Literal → Reread Expr
  | .whole n => if isTooLong n then .error .numberTooLong else .ok (.literal (.whole n))
  | l => .ok (.literal l)

mutual

def Expr.reread : Expr → Reread Expr
  | .literal l => rereadLiteral l
  | .name line id => rereadName line id
  | .attribute line base id => return .attribute line (← base.reread) (← keptName id)
  | .item base index => return .item (← base.reread) (← index.reread)
  | .call callee args named =>
    return .call (← callee.reread) (← rereadAll args) (← rereadNamed named)
  | .spread items => .spread <$> items.reread
  | .await call => .await <$> call.reread
  | .list items => .list <$> rereadAll items
  | .tuple items => .tuple <$> rereadAll items
  | .mapping entries => .mapping <$> rereadEntries entries
  | .negate operand => .negate <$> operand.reread
  | .binary op left right => return .binary op (← left.reread) (← right.reread)
  | .equal first rest => return .equal (← first.reread) (← rereadAll rest)
  | .function signature value => return .function (← rereadParts signature) (← value.reread)

def rereadAll : List Expr → Reread (List Expr)
  | [] => .ok []
  | e :: rest => return (← e.reread) :: (← rereadAll rest)

def rereadNamed : List (Option String × Expr) → Reread (List (Option String × Expr))
  | [] => .ok []
  | (name, e) :: rest => return (← name.mapM keptName, ← e.reread) :: (← rereadNamed rest)

def rereadEntries : List (Expr × Expr) → Reread (List (Expr × Expr))
  | [] => .ok []
  | (key, value) :: rest => return (← key.reread, ← value.reread) :: (← rereadEntries rest)

def rereadParts : List Part → Reread (List Part)
  | [] => .ok []
  | .param line name :: rest => return .param line (← keptName name) :: (← rereadParts rest)
  | .expr e :: rest => return .expr (← e.reread) :: (← rereadParts rest)

end

/-- Targets of an assignment, none of which may be read as a value. -/
def rereadTargets (targets : List Expr) : Reread (List Expr) := do
  let found ← rereadAll targets
  if found.all isTarget then return found else .error .malformed

/-- The statement that an expression alone on its place is read as. -/
def rereadAlone (value : Expr) : Reread Stmt :=
  match value with
  | .name line id =>
    if id = "pass" then .ok .pass
    else if id = "raise" then .ok (.raise none)
    else .expr <$> rereadName line id
  | e => .expr <$> e.reread

mutual

def Stmt.reread : Stmt → Reread Stmt
  | .expr value => rereadAlone value
  | .assign targets value => return .assign (← rereadTargets targets) (← value.reread)
  | .pass => .ok .pass
  | .raise error => .raise <$> error.mapM Expr.reread
  | .return_ value => .return_ <$> value.mapM Expr.reread
  | .import_ line => .ok (.import_ line)
  | .global line => .ok (.global line)
  | .nonlocal line => .ok (.nonlocal line)
  | .while_ test body => return .while_ (← test.reread) (← rereadBlock body)
  | .try_ body handlers => return .try_ (← rereadBlock body) (← rereadHandlers handlers)
  | .define line name signature body result =>
    return .define line (← keptName name) (← rereadParts signature) (← rereadBlock body)
      (← result.mapM Expr.reread)
  | .class_ line name bases named body =>
    return .class_ line (← keptName name) (← rereadAll bases) (← rereadNamed named)
      (← rereadBlock body)

def rereadBlock : List Stmt → Reread (List Stmt)
  | [] => .ok []
  | s :: rest => return (← s.reread) :: (← rereadBlock rest)

def rereadHandlers : List Handler → Reread (List Handler)
  | [] => .ok []
  | .mk line type bound body :: rest =>
    return .mk line (← type.mapM Expr.reread) (← bound.mapM keptName) (← rereadBlock body)
      :: (← rereadHandlers rest)

end

/-- The program that is read from a program written out. -/
def Program.reread (p : Program) : Reread Program := rereadBlock p

/-! ## Faults found before a script runs -/

/-- Whether no name is given twice. -/
def allDistinct : List String → Bool
  | [] => true
  | s :: rest => !rest.contains s && allDistinct rest

/-- Whether a handler for all errors comes last. -/
def catchAllLast : List Handler → Bool
  | [] => true
  | .mk _ type _ _ :: rest => (type.isSome || rest.isEmpty) && catchAllLast rest

/-- Whether a node can be run wherever it stands. -/
def Node.isSound : Node → Bool
  | .expr (.call _ _ named) => allDistinct (named.filterMap (·.1))
  | .stmt (.class_ _ _ _ named _) => allDistinct (named.filterMap (·.1))
  | .stmt (.try_ _ handlers) => catchAllLast handlers
  | _ => true

mutual

/-- Whether a statement can stand outside functions. -/
def Stmt.fitsOutside : Stmt → Bool
  | .return_ _ => false
  | .nonlocal _ => false
  | .while_ _ body => fitOutside body
  | .try_ body handlers => fitOutside body && handlersFitOutside handlers
  | .class_ _ _ _ _ body => fitOutside body
  | _ => true

def fitOutside : List Stmt → Bool
  | [] => true
  | s :: rest => s.fitsOutside && fitOutside rest

def handlersFitOutside : List Handler → Bool
  | [] => true
  | .mk _ _ _ body :: rest => fitOutside body && handlersFitOutside rest

end

/-- Whether a program can be run; if it cannot, none of it is. -/
def Program.isSound (p : Program) : Bool := p.nodes.all Node.isSound && fitOutside p

end Pinboard.Script
