import Pinboard.Script.Conversion
import Pinboard.Script.JsonReading
import Pinboard.Script.TextMethod

/-!
# Calls

The functions that scripts are given, with their parameters, and what calling a value gives. A call
to a directive is only formed. Some functions call others on each of the values that they handle.
-/
namespace Pinboard.Script

open Number

def Function.parameters : Function → Parameters
  | .length => ⟨["obj"], []⟩
  | .text => ⟨["object", "encoding", "errors"], ["object", "encoding", "errors"]⟩
  | .whole => ⟨["x", "base"], ["base"]⟩
  | .sum => ⟨["iterable", "start"], ["start"]⟩
  | .sorted => ⟨["iterable"], ["key", "reverse"]⟩
  | .set => ⟨["iterable"], []⟩
  | .readJson => ⟨["s"], "s" :: "cls" :: "strict" :: jsonHookNames⟩
  | .writeJson => ⟨["obj"], "obj" :: jsonOptions⟩
  | .method m => m.parameters
  | .other _ => ⟨[], []⟩

/-! ## Functions -/

def isText : Value → Bool
  | .text _ => true
  | _ => false

/-- A value as text. Encodings are for bytes, which scripts do not have. -/
def callText (given : Given) : Outcome Value :=
  let codings := ["encoding", "errors"].filterMap fun name => Fields.get? name given
  match Fields.get? "object" given with
  | none => if codings.all isText then .ok (.text "") else badCall
  | some v => if codings.isEmpty then v.displayed.map .text else badCall

/-- A number as a whole one, and a text in base ten. -/
def toWhole (v : Value) : Outcome Value :=
  match v with
  | .text s => readNumeral 10 s
  | v => (decimalOf v).map .whole
where
  readNumeral (base : Nat) (s : String) : Outcome Value :=
    match readWhole base s.toList with
    | .ok i => .ok (.whole i)
    | .error _ =>
      raised .badValue
        ("invalid literal for int() with base " ++ natText base ++ ": " ++ Text.quoted s)

/-- A text as a whole number in a base from 2 to 36, or in the base that it is marked with. -/
def toWholeIn (v base : Value) : Outcome Value :=
  match base.whole? with
  | none => raised .badType "object cannot be interpreted as an integer"
  | some b =>
    if b ≠ 0 ∧ (b < 2 ∨ 36 < b) then raised .badValue "int() base must be >= 2 and <= 36, or 0"
    else
      match v with
      | .text s => toWhole.readNumeral b.toNat s
      | _ => raised .badType "int() can't convert non-string with explicit base"

def callWhole (given : Given) : Outcome Value :=
  match Fields.get? "x" given, Fields.get? "base" given with
  | none, none => .ok (.whole 0)
  | none, some _ => raised .badType "int() missing string argument"
  | some v, none => toWhole v
  | some v, some base => toWholeIn v base

def callSum (given : Given) : Op Value := do
  let items ← (← given.need "iterable").members
  match (Fields.get? "start" given).getD (.whole 0) with
  | .text _ => raised (α := Value) .badType "sum() can't sum strings"
  | start => items.foldlM Value.plus start

/-- Whether an argument asks for descending order; it has to be a small whole number. -/
def isDescending (v : Value) : Outcome Bool :=
  match v.whole? with
  | none => raised .badType "object cannot be interpreted as an integer"
  | some i =>
    if -placesLimit ≤ i ∧ i < placesLimit then .ok (i != 0)
    else raised .overflow "too large for a machine word"

def callSorted (hook : Hook) (given : Given) : Op Value := do
  let items ← (← given.need "iterable").members
  let descending ← isDescending ((Fields.get? "reverse" given).getD (.whole 0))
  let row ←
    match given.some? "key" with
    | none => pure (items.map fun v => ⟨v, v⟩)
    | some f => items.mapM fun v => do return ⟨← hook f v, v⟩
  return .list (← sortedBy descending row)

def callSet (given : Given) : Outcome Value :=
  match Fields.get? "iterable" given with
  | none => .ok (.set 8 [])
  | some v => do Value.toSet v (← v.members)

/-- Calls a value with arguments. -/
abbrev Caller := Value → List Value → Fields Value → Op Value

/-- The arguments of a reader that it is built with. -/
def readerOptions (given : Given) : Fields Value :=
  (jsonHookNames.filterMap fun name => (given.some? name).map fun v => (name, v))
    ++ given.filter fun (name, _) => !("s" :: "cls" :: jsonHookNames).contains name

def callReadJson (call : Caller) (given : Given) : Op Value := do
  match ← given.need "s" with
  | .text s =>
    if s.toList.head? = some '\uFEFF' then badJson (α := Value)
    else
      match given.some? "cls" with
      | some reader => (← call reader [] (readerOptions given)).attributeOf "decode"
      | none => readJson (fun f v => call f [v] []) s given
  | _ => raised (α := Value) .badType "the JSON object must be str, bytes or bytearray"

/-- The arguments of a writer that it is built with. -/
def writerOptions (given : Given) : Fields Value :=
  [("skipkeys", .truth false), ("ensure_ascii", .truth true), ("check_circular", .truth true),
    ("allow_nan", .truth true), ("indent", .none), ("separators", .none), ("default", .none),
    ("sort_keys", .truth false)].map fun (name, usual) =>
      (name, (Fields.get? name given).getD usual)

def callWriteJson (call : Caller) (given : Given) : Op Value := do
  let v ← given.need "obj"
  match given.some? "cls" with
  | some writer => (← call writer [] (writerOptions given)).attributeOf "encode"
  | none => writeJson (fun f v => call f [v] []) v given

/-- The parameters of a JSON function. Other arguments are for a reader or writer that is given. -/
def Function.jsonParameters (f : Function) (named : Fields Value) : Parameters :=
  match (named.get? "cls").getD .none with
  | .none => f.parameters
  | _ => { f.parameters with named := f.parameters.named ++ named.keys }

/-- What a function gives. It calls others by the given way. -/
def Function.applyWith (call : Caller) (f : Function) (args : List Value) (named : Fields Value) :
    Op Value :=
  let given := f.parameters.bind args named
  match f with
  | .length => do (← (← given).need "obj").length
  | .text => do callText (← given)
  | .whole => do callWhole (← given)
  | .sum => do callSum (← given)
  | .sorted => do callSorted (fun f v => call f [v] []) (← given)
  | .set => do callSet (← given)
  | .readJson => do callReadJson call (← (f.jsonParameters named).bind args named)
  | .writeJson => do callWriteJson call (← (f.jsonParameters named).bind args named)
  | .method m => m.applyFirst args named
  | .other name => raised (α := Value) .notImplemented name

namespace Value

/-- What calling a value gives; functions call others by the given way. -/
def callWith (call : Caller) (callee : Value) (args : List Value) (named : Fields Value) :
    Op Value :=
  match callee with
  | .function f => f.applyWith call args named
  | .method owner m => m.apply owner args named
  | .errorType t => do
    if named.isEmpty then return .error (← freshId) t args
    else raised (α := Value) .badType (t.name ++ "() takes no keyword arguments")
  | .directive name => do return .pending (← freshId) name args named
  | _ => raised (α := Value) .badType "object is not callable"

/-- A call from inside a function. Those that are called on one value call no others in turn. -/
def callInside : Caller := callWith fun _ _ _ => badCall (α := Value)

def call : Caller := callWith callInside

end Value

/-! ## Operators -/

/-- The remainder of numbers; of a text, the text with values put in. -/
def Value.modulo (a b : Value) : Op Value :=
  match a with
  | .text s => filled s b
  | _ => remainder a b

def Operator.apply : Operator → Value → Value → Op Value
  | .plus => Value.plus
  | .minus => Value.minus
  | .times => Value.times
  | .divide => Value.divide
  | .floorDivide => Value.floorDivide
  | .modulo => Value.modulo

/-! ## Errors -/

/-- The error types that a value stands for. -/
def Value.errorTypes? : Value → Option (List ErrorType)
  | .errorType t => some [t]
  | .tuple items => items.mapM fun v => match v with | .errorType t => some t | _ => Option.none
  | _ => Option.none

/-- Whether a handler for a value takes errors of a type. -/
def Value.catches (handled : Value) (type : ErrorType) : Outcome Bool :=
  match handled.errorTypes? with
  | some types => .ok (types.any type.isKindOf)
  | Option.none =>
    raised .badType "catching classes that do not inherit from BaseException is not allowed"

/-- The error that a value is when it is raised. -/
def Value.raisedBy : Value → Raised
  | .error id type args => ⟨type, args, some id⟩
  | .errorType type => ⟨type, [], Option.none⟩
  | _ => .because .badType "exceptions must derive from BaseException"

end Pinboard.Script
