import Pinboard.Record.Scalar

/-!
# Readers of moments

A moment is written as a date, with or without a time of day, or given as a number of seconds since
1970, which is a number of milliseconds if it is too large for one of seconds.
-/
namespace Pinboard.Record

open Number Time

/-- Microseconds from the start of the calendar to the start of 1970. -/
def epochMicros : Int := 719163 * 86400000000

/-- Numbers up to this one are seconds, larger ones milliseconds. -/
def mostSeconds : Nat := 20000000000

/-- The moment a number of microseconds after the start of 1970. The year zero, which the calendar
does not have, is told apart from what lies outside of it. -/
def momentAt (micros : Int) : Except DateFault Timestamp :=
  let instant := epochMicros + micros
  match Timestamp.ofInstant? instant with
  | some t => .ok t
  | none =>
    if instant < -365 * 86400000000 then .error .tooEarly
    else if instant < 86400000000 then .error .yearZero
    else .error .tooLate

def momentOfWhole (i : Int) : Except DateFault Timestamp :=
  momentAt (if i.natAbs ≤ mostSeconds then i * 1000000 else i * 1000)

/-- A fraction of a second counts to the nearest microsecond. -/
def momentOfReal (x : Binary64) : Except DateFault Timestamp :=
  let limit := Binary64.ofNat mostSeconds
  let seconds := if limit.lt x || x.lt limit.neg then x.div (.ofNat 1000) else x
  match seconds with
  | .nan => .error .notNumber
  | .infinite negative => .error (if negative then .tooEarly else .tooLate)
  | .finite _ _ _ =>
    let low := seconds.floor?.getD 0
    match (seconds.add (.ofInt (-low))).mul (.ofNat 1000000) with
    | .finite _ m q =>
      let n := m * 2 ^ q.toNat
      let d := 2 ^ (-q).toNat
      momentAt (low * 1000000 + ((2 * n + d) / (2 * d) : Nat))
    | _ => .error .tooLate

/-- A number of seconds as text: whole, or with a point and perhaps an exponent. -/
def momentOfNumeral? (s : String) : Option (Except DateFault Timestamp) :=
  let (_, body) := takeSign s.toList
  let rest := body.dropWhile isAsciiDigit
  match rest with
  | [] =>
    match wholeOfText s with
    | .ok i => if body.isEmpty || !isWord i then none else some (momentOfWhole i)
    | .error _ => none
  | '.' :: _ => (plainReal? s.toList).map momentOfReal
  | _ => none

/-- Whether a text would be a moment if the calendar had a year zero, which is a leap year. -/
def isInYearZero (s : String) : Bool :=
  match s.toList with
  | '0' :: '0' :: '0' :: '0' :: rest =>
    (Timestamp.readChars? ('2' :: '0' :: '0' :: '0' :: rest)).isSome
  | _ => false

def momentOfText (s : String) : Except FieldCause Timestamp :=
  match Timestamp.read? s with
  | some t => .ok t
  | none =>
    if isInYearZero s then .error (.momentOutOfRange .yearZero)
    else
      match momentOfNumeral? s with
      | some (.ok t) => .ok t
      | some (.error .yearZero) => .error (.momentOutOfRange .yearZero)
      | some (.error why) =>
        .error (.momentUnreadable (if s.toList.contains '.' then dateFault s else why))
      | none => .error (.momentUnreadable (dateFault s))

def moment : Reader Timestamp := fun v =>
  match v with
  | .str s => .ofExcept v (momentOfText s)
  | .int i =>
    let x := Binary64.ofInt i
    if isWord i then .ofExcept v ((momentOfWhole i).mapError .momentOutOfRange)
    else if x.isFinite then .ofExcept v ((momentOfReal x).mapError .momentOutOfRange)
    else .refuse v .notMoment
  | .real x => .ofExcept v ((momentOfReal x).mapError .momentOutOfRange)
  | _ => .refuse v .notMoment

end Pinboard.Record
