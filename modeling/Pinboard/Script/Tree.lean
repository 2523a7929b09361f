import Pinboard.Script.Literal

/-!
# Scripts as trees

Expressions and statements of the script language. A node that can be refused for a name in it keeps
the line on which it starts. The nodes of a script can be listed in the order in which they are
checked.
-/
namespace Pinboard.Script

inductive Operator where
  | plus | minus | times | divide | floorDivide | modulo
  deriving DecidableEq, Repr

mutual

inductive Expr where
  | literal (value : Literal)
  | name (line : Nat) (id : String)
  | attribute (line : Nat) (base : Expr) (id : String)
  | item (base index : Expr)
  /-- A call; an argument without a name among the named ones gives all entries of a mapping. -/
  | call (callee : Expr) (args : List Expr) (named : List (Option String × Expr))
  /-- The items of a collection as arguments of a call. -/
  | spread (items : Expr)
  | await (call : Expr)
  | list (items : List Expr)
  | tuple (items : List Expr)
  | mapping (entries : List (Expr × Expr))
  | negate (operand : Expr)
  | binary (op : Operator) (left right : Expr)
  /-- Equality of all neighbours in a row. -/
  | equal (first : Expr) (rest : List Expr)
  /-- A function without a name. -/
  | function (signature : List Part) (value : Expr)

/-- A part of a signature: a parameter, or an expression for its type or its default. The parts
stand in the order in which they are checked, the defaults of what is given by position last. -/
inductive Part where
  | param (line : Nat) (name : String)
  | expr (value : Expr)

end

instance : Inhabited Expr := ⟨.literal .none⟩

mutual

inductive Stmt where
  | expr (value : Expr)
  | assign (targets : List Expr) (value : Expr)
  | pass
  | raise (error : Option Expr)
  | return_ (value : Option Expr)
  | import_ (line : Nat)
  | global (line : Nat)
  | nonlocal (line : Nat)
  | while_ (test : Expr) (body : List Stmt)
  | try_ (body : List Stmt) (handlers : List Handler)
  | define (line : Nat) (name : String) (signature : List Part) (body : List Stmt)
      (result : Option Expr)
  | class_ (line : Nat) (name : String) (bases : List Expr) (named : List (Option String × Expr))
      (body : List Stmt)

/-- What to do on errors of a type, under a name for the error. -/
inductive Handler where
  | mk (line : Nat) (type : Option Expr) (bound : Option String) (body : List Stmt)

end

abbrev Program := List Stmt

/-! ## Nodes -/

/-- A node of a script, with the nodes below it. -/
inductive Node where
  | expr (e : Expr)
  | param (line : Nat) (name : String)
  | stmt (s : Stmt)
  | handler (h : Handler)

mutual

/-- An expression and all below it, from left to right; a mapping is read keys first. -/
def Expr.nodes : Expr → List Node
  | .literal l => [.expr (.literal l)]
  | .name line id => [.expr (.name line id)]
  | .attribute line base id => .expr (.attribute line base id) :: base.nodes
  | .item base index => .expr (.item base index) :: (base.nodes ++ index.nodes)
  | .call callee args named =>
    .expr (.call callee args named) :: (callee.nodes ++ nodesOfAll args ++ nodesOfNamed named)
  | .spread items => .expr (.spread items) :: items.nodes
  | .await call => .expr (.await call) :: call.nodes
  | .list items => .expr (.list items) :: nodesOfAll items
  | .tuple items => .expr (.tuple items) :: nodesOfAll items
  | .mapping entries => .expr (.mapping entries) :: (nodesOfKeys entries ++ nodesOfValues entries)
  | .negate operand => .expr (.negate operand) :: operand.nodes
  | .binary op left right => .expr (.binary op left right) :: (left.nodes ++ right.nodes)
  | .equal first rest => .expr (.equal first rest) :: (first.nodes ++ nodesOfAll rest)
  | .function signature value =>
    .expr (.function signature value) :: (nodesOfParts signature ++ value.nodes)

def nodesOfAll : List Expr → List Node
  | [] => []
  | e :: rest => e.nodes ++ nodesOfAll rest

def nodesOfNamed : List (Option String × Expr) → List Node
  | [] => []
  | (_, e) :: rest => e.nodes ++ nodesOfNamed rest

def nodesOfKeys : List (Expr × Expr) → List Node
  | [] => []
  | (key, _) :: rest => key.nodes ++ nodesOfKeys rest

def nodesOfValues : List (Expr × Expr) → List Node
  | [] => []
  | (_, value) :: rest => value.nodes ++ nodesOfValues rest

def nodesOfParts : List Part → List Node
  | [] => []
  | .param line name :: rest => .param line name :: nodesOfParts rest
  | .expr e :: rest => e.nodes ++ nodesOfParts rest

end

def nodesOfOption : Option Expr → List Node
  | some e => e.nodes
  | none => []

mutual

/-- A statement and all below it, in reading order; of a definition the type of its value comes
last, of a class the named arguments after the others. -/
def Stmt.nodes : Stmt → List Node
  | .expr value => .stmt (.expr value) :: value.nodes
  | .assign targets value => .stmt (.assign targets value) :: (nodesOfAll targets ++ value.nodes)
  | .pass => [.stmt .pass]
  | .raise error => .stmt (.raise error) :: nodesOfOption error
  | .return_ value => .stmt (.return_ value) :: nodesOfOption value
  | .import_ line => [.stmt (.import_ line)]
  | .global line => [.stmt (.global line)]
  | .nonlocal line => [.stmt (.nonlocal line)]
  | .while_ test body => .stmt (.while_ test body) :: (test.nodes ++ nodesOfBlock body)
  | .try_ body handlers =>
    .stmt (.try_ body handlers) :: (nodesOfBlock body ++ nodesOfHandlers handlers)
  | .define line name signature body result =>
    .stmt (.define line name signature body result) ::
      (nodesOfParts signature ++ nodesOfBlock body ++ nodesOfOption result)
  | .class_ line name bases named body =>
    .stmt (.class_ line name bases named body) ::
      (nodesOfAll bases ++ nodesOfNamed named ++ nodesOfBlock body)

def nodesOfBlock : List Stmt → List Node
  | [] => []
  | s :: rest => s.nodes ++ nodesOfBlock rest

def nodesOfHandlers : List Handler → List Node
  | [] => []
  | .mk line type bound body :: rest =>
    .handler (.mk line type bound body) ::
      (nodesOfOption type ++ nodesOfBlock body ++ nodesOfHandlers rest)

end

def Program.nodes (p : Program) : List Node := nodesOfBlock p

end Pinboard.Script
