import Pinboard.Text.Identifier

/-!
# Names in scripts

The words of the script language, the functions and error types that every script sees, and the
names bound for it. A directive can be called from a script under a spelling that collides with none
of them.
-/
namespace Pinboard.Script

def keywords : List String :=
  ["False", "None", "True", "and", "as", "assert", "async", "await", "break", "class", "continue",
    "def", "del", "elif", "else", "except", "finally", "for", "from", "global", "if", "import",
    "in", "is", "lambda", "nonlocal", "not", "or", "pass", "raise", "return", "try", "while",
    "with", "yield"]

def functionNames : List String :=
  ["abs", "all", "any", "bool", "chr", "dict", "divmod", "enumerate", "filter", "float", "format",
    "frozenset", "hash", "int", "isinstance", "len", "list", "map", "max", "min", "next", "ord",
    "pow", "range", "repr", "reversed", "round", "set", "slice", "sorted", "str", "sum", "tuple",
    "zip"]

def errorNames : List String :=
  ["ArithmeticError", "Exception", "IndexError", "KeyError", "LookupError", "RuntimeError",
    "TypeError", "ValueError", "ZeroDivisionError"]

/-- Every name that a script sees without being given it. -/
def builtinNames : List String := functionNames ++ errorNames

/-- Names bound to the outputs so far and to the JSON functions. -/
def helperNames : List String := ["outputs", "json_loads", "json_dumps"]

/-- The name that holds the value of a script's last expression. -/
def resultName : String := "_result"

/-- Whether a directive can be called from scripts under a spelling. -/
def isCallable (spelling : String) : Bool :=
  Text.isIdentifier spelling.toList && !keywords.contains spelling
    && spelling.toList.head? != some '_' && !builtinNames.contains spelling
    && !helperNames.contains spelling

end Pinboard.Script
