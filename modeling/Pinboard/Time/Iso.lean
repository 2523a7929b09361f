import Pinboard.Time.Timestamp

/-!
# Timestamps as text

Date and time in the extended ISO 8601 form. Microseconds are written as six digits, and only if
there are any. A stored UTC timestamp ends in `Z`; elsewhere UTC is the offset `+00:00`.
-/
namespace Pinboard.Time

/-! ## Writing -/

def Date.chars (d : Date) : List Char :=
  Number.padded 4 d.year ++ '-' :: Number.padded 2 d.month ++ '-' :: Number.padded 2 d.day

def Clock.chars (c : Clock) : List Char :=
  Number.padded 2 c.hour ++ ':' :: Number.padded 2 c.minute ++ ':' :: Number.padded 2 c.second
    ++ (if c.micro = 0 then [] else '.' :: Number.padded 6 c.micro)

def Offset.chars (o : Offset) : List Char :=
  (if o.minutes < 0 then '-' else '+') :: Number.padded 2 (o.minutes.natAbs / 60)
    ++ ':' :: Number.padded 2 (o.minutes.natAbs % 60)

/-- The offset of a stored timestamp. -/
def Offset.storedChars (o : Offset) : List Char := if o.minutes = 0 then ['Z'] else o.chars

def Timestamp.charsWith (zone : Offset → List Char) (t : Timestamp) : List Char :=
  t.date.chars ++ 'T' :: t.clock.chars ++ (t.offset.map zone).getD []

/-- The text under which a timestamp is stored. -/
def Timestamp.stored (t : Timestamp) : String := String.ofList (t.charsWith Offset.storedChars)

/-- The text of a timestamp with every offset in digits. -/
def Timestamp.iso (t : Timestamp) : String := String.ofList (t.charsWith Offset.chars)

/-! ## Reading -/

def digit? (c : Char) : Option Nat := if '0' ≤ c ∧ c ≤ '9' then some (c.toNat - 48) else none

def twoDigits? (a b : Char) : Option Nat := do
  let a ← digit? a
  let b ← digit? b
  return 10 * a + b

def takeDate? : List Char → Option (Date × List Char)
  | a :: b :: c :: d :: '-' :: e :: f :: '-' :: g :: h :: rest => do
    let century ← twoDigits? a b
    let year ← twoDigits? c d
    let month ← twoDigits? e f
    let day ← twoDigits? g h
    let date ← Date.ofParts? (100 * century + year) month day
    return (date, rest)
  | _ => none

/-- A fraction of a second in microseconds; digits after the sixth are dropped. -/
def takeMicros? : List Char → Option (Nat × List Char)
  | c :: cs =>
    if c = '.' ∨ c = ',' then
      let ds := cs.takeWhile fun c => (digit? c).isSome
      if ds.isEmpty then none
      else
        let six := (ds ++ ['0', '0', '0', '0', '0', '0']).take 6
        some (Number.ofDigitValues (six.map fun c => c.toNat - 48), cs.drop ds.length)
    else some (0, c :: cs)
  | [] => some (0, [])

def takeSeconds? : List Char → Option (Nat × Nat × List Char)
  | ':' :: a :: b :: rest => do
    let second ← twoDigits? a b
    let (micro, rest) ← takeMicros? rest
    return (second, micro, rest)
  | rest => some (0, 0, rest)

def takeClock? : List Char → Option (Clock × List Char)
  | a :: b :: ':' :: c :: d :: rest => do
    let hour ← twoDigits? a b
    let minute ← twoDigits? c d
    let (second, micro, rest) ← takeSeconds? rest
    let clock ← Clock.ofParts? hour minute second micro
    return (clock, rest)
  | _ => none

/-- The offset of a sign, a hyphen or a minus sign for the clocks behind UTC. -/
def signedOffset? (sign : Char) (hours minutes : Nat) : Option Offset :=
  if 60 ≤ minutes then none
  else
    let total : Int := 60 * hours + minutes
    if sign = '+' then Offset.ofMinutes? total
    else if sign = '-' ∨ sign = '−' then Offset.ofMinutes? (-total)
    else none

/-- What follows the time of day: nothing, `Z`, or an offset in hours and minutes. -/
def readZone? : List Char → Option (Option Offset)
  | [] => some none
  | ['Z'] => some (some .utc)
  | ['z'] => some (some .utc)
  | [sign, a, b, ':', c, d] => do
    let hours ← twoDigits? a b
    let minutes ← twoDigits? c d
    let offset ← signedOffset? sign hours minutes
    return some offset
  | [sign, a, b, c, d] => do
    let hours ← twoDigits? a b
    let minutes ← twoDigits? c d
    let offset ← signedOffset? sign hours minutes
    return some offset
  | _ => none

/-- Read a date, alone or with a time of day and an offset; a date alone means its midnight. -/
def Timestamp.readChars? (cs : List Char) : Option Timestamp := do
  let (date, rest) ← takeDate? cs
  match rest with
  | [] => return { date, clock := .midnight, offset := none }
  | separator :: rest =>
    if separator = 'T' ∨ separator = 't' ∨ separator = ' ' ∨ separator = '_' then
      let (clock, rest) ← takeClock? rest
      let offset ← readZone? rest
      return { date, clock, offset }
    else none

def Timestamp.read? (s : String) : Option Timestamp := readChars? s.toList

/-! ## Refusals -/

/-- Why something gives no date. -/
inductive DateFault where
  | tooShort
  | badYear
  | badMonth
  | badDay
  | badSeparator
  | monthOutOfRange
  | dayOutOfRange
  | trailing
  | tooEarly
  | tooLate
  | yearZero
  | notNumber
  deriving DecidableEq, Repr

/-- Whether the characters at some positions are all digits. -/
def areDigits (cs : List Char) (start count : Nat) : Bool :=
  ((cs.drop start).take count).all fun c => (digit? c).isSome

/-- The first reason why a text is no date; the end of a date is the last of them. -/
def dateFault (s : String) : DateFault :=
  let cs := s.toList
  let part (start count : Nat) : Nat :=
    Number.ofDigitValues (((cs.drop start).take count).map fun c => c.toNat - 48)
  if s.utf8ByteSize < 10 then .tooShort
  else if !areDigits cs 0 4 then .badYear
  else if cs[4]? ≠ some '-' then .badSeparator
  else if !areDigits cs 5 2 then .badMonth
  else if cs[7]? ≠ some '-' then .badSeparator
  else if !areDigits cs 8 2 then .badDay
  else if part 5 2 = 0 ∨ 12 < part 5 2 then .monthOutOfRange
  else if part 8 2 = 0 ∨ daysInMonth (part 0 4) (part 5 2) < part 8 2 then .dayOutOfRange
  else .trailing

end Pinboard.Time
