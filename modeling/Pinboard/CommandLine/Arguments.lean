import Pinboard.Text.Basic
import Pinboard.Text.Number

/-!
# Arguments of the command line

The arguments choose a command. A word that starts with a dash is an option if it can be one; after
two dashes every word is a value. Long options may be cut short as long as they are clear, short
ones may share a dash. The first word that settles the outcome does so, from left to right.
-/
namespace Pinboard.CommandLine

inductive Command where
  /-- Resolve a text and print the result. -/
  | resolve (target : String)
  /-- Run what is due and settle what has expired. -/
  | checkDue
  deriving DecidableEq, Repr

/-- Why no command runs. -/
inductive Refusal where
  /-- Help was asked for. -/
  | help
  /-- The arguments make no command. -/
  | usage
  deriving DecidableEq, Repr

/-- The exit status of a refusal. -/
def Refusal.status : Refusal → Nat
  | .help => 0
  | .usage => 2

inductive Switch where
  | help | verbose
  deriving DecidableEq, Repr

def Switch.letter : Switch → Char
  | .help => 'h'
  | .verbose => 'v'

def Switch.word : Switch → String
  | .help => "--help"
  | .verbose => "--verbose"

/-- What a word is. -/
inductive Word where
  | value
  | switches (found : List Switch)
  /-- An option with a value, which no option takes, or with letters that are no switches. -/
  | malformed
  /-- An option that could be several. -/
  | ambiguous
  | unknown
  deriving DecidableEq, Repr

/-- The switches of letters in a row, if all are. -/
def lettersOf? (known : List Switch) (letters : List Char) : Option (List Switch) :=
  letters.mapM fun c => known.find? fun s => s.letter == c

/-- Drop a line end after a word. -/
def dropLineEnd (cs : List Char) : List Char :=
  if cs.getLast? = some '\n' then cs.dropLast else cs

/-- Whether a word is a negative number: digits, or a point with digits after it. One line end may
follow. -/
def isNegativeNumber (cs : List Char) : Bool :=
  match dropLineEnd cs with
  | '-' :: rest =>
    let whole := rest.takeWhile Text.isDecimal
    match rest.drop whole.length with
    | [] => !whole.isEmpty
    | '.' :: fraction => !fraction.isEmpty && fraction.all Text.isDecimal
    | _ => false
  | _ => false

/-- A word with dashes that names none of the known options in full or in part. -/
def classifyStrange (cs : List Char) : Word :=
  if isNegativeNumber cs || cs.contains ' ' then .value else .unknown

/-- A word that starts with two dashes: the name of an option or its beginning, perhaps with a value
after an equals sign. -/
def classifyLong (known : List Switch) (cs : List Char) : Word :=
  let name := cs.takeWhile (· != '=')
  let sole (s : Switch) : Word := if cs.contains '=' then .malformed else .switches [s]
  match known.filter fun s => name.isPrefixOf s.word.toList with
  | [] => classifyStrange cs
  | [s] => sole s
  | _ => .ambiguous

/-- A word that starts with the letter of a switch: more letters follow, perhaps after an equals
sign. -/
def classifyShort (known : List Switch) (s : Switch) : List Char → Word
  | ['='] => .malformed
  | '=' :: rest => joined rest
  | rest => joined rest
where
  joined (rest : List Char) : Word :=
    match lettersOf? known rest with
    | some found => .switches (s :: found)
    | none => .malformed

def classify (known : List Switch) (word : String) : Word :=
  match word.toList with
  | '-' :: '-' :: rest => classifyLong known ('-' :: '-' :: rest)
  | '-' :: c :: rest =>
    match known.find? fun s => s.letter == c with
    | some s => classifyShort known s rest
    | none => classifyStrange ('-' :: c :: rest)
  | _ => .value

/-- The values among the words of a command, up to the refusal that comes first. Words that are no
value and no option are refused once all are read. -/
def valuesOf : List String → Except Refusal (List String × Bool)
  | [] => .ok ([], true)
  | "--" :: rest => .ok (rest, true)
  | word :: rest =>
    match classify [.help] word with
    | .value => (valuesOf rest).map fun (values, clean) => (word :: values, clean)
    | .switches _ => .error .help
    | .malformed => .error .usage
    | .ambiguous => .error .usage
    | .unknown => (valuesOf rest).map fun (values, _) => (values, false)

/-- The command of a name with the words after it. -/
def commandOf (name : String) (words : List String) : Except Refusal Command :=
  if name == "resolve" then
    (valuesOf words).bind fun
      | ([target], true) => .ok (.resolve target)
      | _ => .error .usage
  else if name == "check-due" then
    (valuesOf words).bind fun (values, clean) =>
      if values.isEmpty && clean && !words.contains "--" then .ok .checkDue else .error .usage
  else .error .usage

/-- The options before the command. -/
def globalSwitches : List Switch := [.help, .verbose]

/-- The command that arguments choose, if `clean` says that all words so far were fit. -/
def parseFrom (clean : Bool) : List String → Except Refusal Command
  | [] => .error .usage
  | "--" :: _ => .error .usage
  | word :: rest =>
    match classify globalSwitches word with
    | .value => (commandOf word rest).bind fun c => if clean then .ok c else .error .usage
    | .switches found => if found.contains .help then .error .help else parseFrom clean rest
    | .malformed => .error .usage
    | .ambiguous => .error .usage
    | .unknown => parseFrom false rest

/-- The command that arguments choose. A word that could be several options settles the outcome
wherever it stands. -/
def parse (arguments : List String) : Except Refusal Command :=
  let words := arguments.takeWhile (· != "--")
  if words.any fun word => classify globalSwitches word = .ambiguous then .error .usage
  else parseFrom true arguments

end Pinboard.CommandLine
