import Pinboard.Fault
import Pinboard.Script.Reader

/-!
# What a script may hold

A script is refused for imports, for scope declarations, for handlers without an error type, and for
names that reach the inside of the language: those that start with an underscore and some
attributes. Of several reasons the first in the order of the script's nodes counts.
-/
namespace Pinboard.Script

/-- A reason to refuse a script, with its line. -/
structure Violation where
  line : Nat
  what : Forbidden
  deriving DecidableEq, Repr

def isHidden (name : String) : Bool := name.toList.head? == some '_'

/-- Attributes that lead to frames, code or other types, and those that read attributes from a
text. -/
def forbiddenAttributes : List String :=
  ["ag_code", "ag_frame", "cr_code", "cr_frame", "f_back", "f_builtins", "f_code", "f_globals",
    "f_locals", "format", "format_map", "gi_code", "gi_frame", "gi_yieldfrom", "cr_await",
    "tb_frame", "tb_next", "mro", "cell_contents"]

/-- A violation unless a name is plain. -/
def hidden? (line : Nat) (name : String) (what : String → Forbidden) : Option Violation :=
  if isHidden name then some ⟨line, what name⟩ else none

def Expr.violation? : Expr → Option Violation
  | .name line id => hidden? line id .name
  | .attribute line _ id =>
    if isHidden id || forbiddenAttributes.contains id then some ⟨line, .attribute id⟩ else none
  | _ => none

def Stmt.violation? : Stmt → Option Violation
  | .import_ line => some ⟨line, .importing⟩
  | .global line => some ⟨line, .globalScope⟩
  | .nonlocal line => some ⟨line, .nonlocalScope⟩
  | .define line name .. => hidden? line name .definition
  | .class_ line name .. => hidden? line name .definition
  | _ => none

/-- The violation that a node is by itself. -/
def Node.violation? : Node → Option Violation
  | .expr e => e.violation?
  | .param line name => hidden? line name .argument
  | .stmt s => s.violation?
  | .handler (.mk line none _ _) => some ⟨line, .catchAll⟩
  | .handler _ => none

/-- The first violation in a program. -/
def Program.violation? (p : Program) : Option Violation := p.nodes.findSome? Node.violation?

/-- Read a script and refuse it for its first violation. -/
def check (source : String) : Except ScriptFault Program :=
  match read source with
  | .error .malformed => .error .unparsable
  | .error .holdsNul => .error .holdsNul
  | .ok tree =>
    match tree.violation? with
    | some v => .error (.forbidden v.line v.what)
    | none => .ok tree

end Pinboard.Script
