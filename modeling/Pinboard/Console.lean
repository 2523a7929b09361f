import Pinboard.Services
import Pinboard.Text.Lowercase

/-!
# The console

Messages and questions on a terminal. Each message is a line; a question stands before its answer on
one line.
-/
namespace Pinboard

variable {σ : Type}

/-- A terminal. -/
structure Console (σ : Type) where
  write : String → Action σ Unit
  /-- The next line of input without its end; none when the input has ended. -/
  readLine? : Action σ (Option String)

/-- A terminal as data: what is still to be read, and all that was written. -/
structure Terminal where
  input : List Char
  output : String
  /-- Whether a line was asked for. -/
  asked : Bool

namespace Terminal

/-- A terminal on which a text is typed. -/
def ofInput (s : String) : Terminal := ⟨s.toList, "", false⟩

def write (s : String) (t : Terminal) : Terminal := { t with output := t.output ++ s }

/-- Take the next line without its end; none if nothing is left. -/
def readLine (t : Terminal) : Option String × Terminal :=
  if t.input.isEmpty then (none, { t with asked := true })
  else
    let line := t.input.takeWhile (· != '\n')
    (some (String.ofList line), { t with input := t.input.drop (line.length + 1), asked := true })

end Terminal

namespace Console

/-- The console of a terminal that is kept in a state. -/
def ofTerminal (look : σ → Terminal) (put : Terminal → σ → σ) : Console σ where
  write := fun s => modify fun state => put ((look state).write s) state
  readLine? := do
    let state ← get
    let (line, t) := (look state).readLine
    set (put t state)
    return line

variable (c : Console σ)

def writeLine (s : String) : Action σ Unit := c.write (s ++ "\n")

/-- Two texts with a separator between them, the first alone if the second is empty. -/
def labelled (first separator second : String) : String :=
  if second.isEmpty then first else first ++ separator ++ second

/-- Ask a question. An empty answer stands for the default, the end of input for none. -/
def ask (text title default : String) : Action σ (Option String) := do
  c.write ((if title.isEmpty then text else title ++ ": " ++ text) ++ " ")
  return (← c.readLine?).map fun answer => if answer.isEmpty then default else answer

def yesWords : List String := ["y", "yes"]

/-- Whether an answer means consent. -/
def isYes (answer : String) : Bool := yesWords.contains (Text.lower (Text.strip answer))

/-- Notification on the console. -/
def notifier : Notifier σ where
  showMessage := c.writeLine
  showAlert := fun title message => c.writeLine (labelled title ": " message)
  showToast := fun title message => c.writeLine (labelled title " - " message)
  prompt := c.ask
  confirm := fun text title => return isYes ((← c.ask (text ++ " [y/N]") title "").getD "")

end Console
end Pinboard
