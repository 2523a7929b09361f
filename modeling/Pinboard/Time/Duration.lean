import Pinboard.Number.Binary64
import Pinboard.Number.Decimal
import Pinboard.Text.Basic
import Pinboard.Text.Lowercase

/-!
# Durations in words

A duration is written as amounts with units, such as `90`, `5m`, `1h30m` or `2 days`. Whatever
stands between them is passed over. The amounts are added as binary floating-point seconds, and the
sum is rounded to microseconds, a half going to the even neighbour.
-/
namespace Pinboard.Time

inductive DurationFault where
  /-- No amount in the text. -/
  | absent
  /-- A long s, which reads as the letter s but names no unit. -/
  | unknownUnit
  /-- More than 999999999 days. -/
  | outOfRange
  deriving DecidableEq, Repr

/-- An amount: its digits before and after the point. -/
structure Amount where
  whole : List Nat
  fraction : List Nat
  deriving DecidableEq, Repr

inductive TimeUnit where
  | millisecond | second | minute | hour | day
  deriving DecidableEq, Repr

def Amount.value (a : Amount) : Number.Binary64 :=
  .ofDecimal false (Number.ofDigitValues (a.whole ++ a.fraction)) (-(a.fraction.length : Int))

def TimeUnit.seconds : TimeUnit → Number.Binary64
  | .millisecond => .ofDecimal false 1 (-3)
  | .second => .ofNat 1
  | .minute => .ofNat 60
  | .hour => .ofNat 3600
  | .day => .ofNat 86400

/-- Digits of any script at the front. -/
def takeDecimals : List Char → List Nat × List Char
  | [] => ([], [])
  | c :: cs =>
    match Text.decimalValue? c with
    | none => ([], c :: cs)
    | some d =>
      let (ds, rest) := takeDecimals cs
      (d :: ds, rest)

def takeAmount? (cs : List Char) : Option (Amount × List Char) :=
  match takeDecimals cs with
  | ([], _) => none
  | (whole, '.' :: rest) =>
    match takeDecimals rest with
    | ([], _) => some (⟨whole, []⟩, '.' :: rest)
    | (fraction, rest) => some (⟨whole, fraction⟩, rest)
  | (whole, rest) => some (⟨whole, []⟩, rest)

/-- Whether `c` reads as the small letter `letter` in any case. The dotted capital I and the dotless
small one read as i, the long s as s. -/
def readsAs (letter c : Char) : Bool :=
  c == letter || c == letter.toUpper || (letter == 's' && c == 'ſ')
    || (letter == 'i' && (c == 'İ' || c == 'ı'))

/-- The rest after a word in any case. -/
def afterWord? : List Char → List Char → Option (List Char)
  | [], cs => some cs
  | letter :: word, c :: cs => if readsAs letter c then afterWord? word cs else none
  | _ :: _, [] => none

/-- The unit of a millisecond word: minutes, unless it begins with `milli` in lower case. A dotted
capital I leaves a dot behind its i there, so it will do for the second i but not for the first. -/
def millisecondUnit (beginning : List Char) : TimeUnit :=
  if "milli".toList.isPrefixOf (Text.lowerFrom [] beginning) then .millisecond else .minute

/-- A unit at the front. The short spelling of a unit hides its longer ones, whose other letters are
then passed over. A word starting with an m means minutes unless it starts with `ms` or spells out
milliseconds. -/
def takeUnit (cs : List Char) : Except DurationFault (TimeUnit × List Char) :=
  match afterWord? ['m', 's'] cs with
  | some rest => .ok (if cs.drop 1 |>.head? |>.any (· == 'ſ') then .minute else .millisecond, rest)
  | none =>
    match afterWord? "millisecond".toList cs with
    | some rest =>
      let unit := millisecondUnit (cs.take 5)
      match afterWord? ['s'] rest with
      | some rest => .ok (unit, rest)
      | none => .ok (unit, rest)
    | none =>
      match cs with
      | [] => .ok (.second, [])
      | c :: rest =>
        if c = 'ſ' then .error .unknownUnit
        else if readsAs 's' c then .ok (.second, rest)
        else if readsAs 'm' c then .ok (.minute, rest)
        else if readsAs 'h' c then .ok (.hour, rest)
        else if readsAs 'd' c then .ok (.day, rest)
        else .ok (.second, cs)

/-- The amounts of a text with their units, from left to right. -/
def amounts : Nat → List Char → Except DurationFault (List (Amount × TimeUnit))
  | _, [] => .ok []
  | 0, _ => .ok []
  | fuel + 1, c :: cs =>
    match takeAmount? (c :: cs) with
    | none => amounts fuel cs
    | some (amount, rest) =>
      match takeUnit (rest.dropWhile Text.isBlank) with
      | .error e => .error e
      | .ok (unit, rest) => (amounts fuel rest).map ((amount, unit) :: ·)

/-- The sum in seconds. -/
def totalSeconds (items : List (Amount × TimeUnit)) : Number.Binary64 :=
  items.foldl (fun sum (a, u) => sum.add (a.value.mul u.seconds)) (.ofNat 0)

/-- The greatest duration, in microseconds. -/
def longestMicros : Nat := 1000000000 * 86400000000 - 1

/-- Seconds as whole microseconds: whole seconds exactly, and the product of the fraction with a
million rounded to even. -/
def microsOfSeconds : Number.Binary64 → Except DurationFault Nat
  | .finite _ m q =>
    let up := 2 ^ q.toNat
    let down := 2 ^ (-q).toNat
    let whole := m * up / down
    let fraction := Number.Binary64.ofRatio false (m * up % down) down
    let rest :=
      match (Number.Binary64.ofNat 1000000).mul fraction with
      | .finite _ n r => Number.nearestEven (n * 2 ^ r.toNat) (2 ^ (-r).toNat)
      | _ => 0
    let micros := whole * 1000000 + rest
    if longestMicros < micros then .error .outOfRange else .ok micros
  | _ => .error .outOfRange

/-- The length of a duration in microseconds. -/
def readDuration (s : String) : Except DurationFault Nat :=
  match amounts (s.toList.length) s.toList with
  | .error e => .error e
  | .ok [] => .error .absent
  | .ok items => microsOfSeconds (totalSeconds items)

end Pinboard.Time
