import Pinboard.Record.Checked
import Pinboard.Record.Numeral

/-!
# Readers of scalars

Text is never made from other data. Whole numbers and truth values are also read from their texts,
and from each other where nothing is lost.
-/
namespace Pinboard.Record

open Number

def text : Reader String
  | .str s => .ok s
  | v => .refuse v .notText

/-- Whether a whole number fits a signed word of 64 bits. -/
def isWord (i : Int) : Bool := -2 ^ 63 ≤ i && i < 2 ^ 63

/-- The whole number that a real one is, if it lies strictly between the bounds of a signed word. -/
def wholeOfReal (x : Binary64) : Except FieldCause Int :=
  match x.truncate? with
  | none => .error .notFinite
  | some i =>
    if !x.isWhole then .error .notWholeReal
    else if -2 ^ 63 < i ∧ i < 2 ^ 63 then .ok i
    else .error .wholeTooLarge

def NumeralFault.cause : NumeralFault → FieldCause
  | .malformed => .wholeUnreadable
  | .tooLong _ => .wholeTooLarge

/-- A value, or the refusal of data for a cause. -/
def Checked.ofExcept {α : Type} (data : Json) : Except FieldCause α → Checked α
  | .ok a => .ok a
  | .error cause => .refuse data cause

def whole : Reader Int := fun v =>
  match v with
  | .int i => .ok i
  | .bool b => .ok (if b then 1 else 0)
  | .real x => .ofExcept v (wholeOfReal x)
  | .str s => .ofExcept v ((wholeOfText s).mapError NumeralFault.cause)
  | _ => .refuse v .notWhole

def real : Reader Binary64 := fun v =>
  match v with
  | .real x => .ok x
  | .int i =>
    let x := Binary64.ofInt i
    if x.isFinite then .ok x else .refuse v .notReal
  | .bool b => .ok (.ofNat (if b then 1 else 0))
  | .str s =>
    match realOfText? s with
    | some x => .ok x
    | none => .refuse v .realUnreadable
  | _ => .refuse v .notReal

def trueWords : List String := ["1", "on", "t", "true", "y", "yes"]

def falseWords : List String := ["0", "off", "f", "false", "n", "no"]

/-- Zero and one stand for truth values. -/
def truthOfWhole (i : Int) : Except FieldCause Bool :=
  if i = 0 then .ok false else if i = 1 then .ok true else .error .truthUnreadable

def truth : Reader Bool := fun v =>
  match v with
  | .bool b => .ok b
  | .int i => .ofExcept v (if isWord i then truthOfWhole i else .error .notTruth)
  | .real x =>
    match wholeOfReal x with
    | .ok i => .ofExcept v (truthOfWhole i)
    | .error _ => .refuse v .notTruth
  | .str s =>
    let word := Text.lower s
    if trueWords.contains word then .ok true
    else if falseWords.contains word then .ok false
    else .refuse v .truthUnreadable
  | _ => .refuse v .notTruth

/-- One of a list of named choices. -/
def choice {α : Type} (choices : List (String × α)) : Reader α
  | .str s =>
    match choices.lookup s with
    | some a => .ok a
    | none => .refuse (.str s) (.noChoice (choices.map (·.1)))
  | v => .refuse v (.noChoice (choices.map (·.1)))

/-- A whole number from a minimum on. -/
def atLeast (minimum : Nat) : Reader Nat := fun v =>
  (whole v).andThen fun i =>
    if i < minimum then .refuse v (.belowMinimum minimum) else .ok i.toNat

end Pinboard.Record
