/-!
# Calendar dates

Dates of the Gregorian calendar, continued backwards, in the years 1 to 9999. Days are numbered from
the first of January of the year 1, which is day 1 and a Monday.
-/
namespace Pinboard.Time

def isLeap (year : Nat) : Bool := year % 4 == 0 && (year % 100 != 0 || year % 400 == 0)

def daysInYear (year : Nat) : Nat := if isLeap year then 366 else 365

def daysInMonth (year month : Nat) : Nat :=
  if month = 2 then (if isLeap year then 29 else 28)
  else if month = 4 ∨ month = 6 ∨ month = 9 ∨ month = 11 then 30 else 31

/-- What the parts of a date have to satisfy. -/
def ValidDate (year month day : Nat) : Prop :=
  1 ≤ year ∧ year ≤ 9999 ∧ 1 ≤ month ∧ month ≤ 12 ∧ 1 ≤ day ∧ day ≤ daysInMonth year month

instance (year month day : Nat) : Decidable (ValidDate year month day) := by
  unfold ValidDate; infer_instance

structure Date where
  year : Nat
  month : Nat
  day : Nat
  valid : ValidDate year month day
  deriving DecidableEq, Repr

namespace Date

def ofParts? (year month day : Nat) : Option Date :=
  if h : ValidDate year month day then some ⟨year, month, day, h⟩ else none

@[simp] theorem ofParts?_eq (d : Date) : ofParts? d.year d.month d.day = some d := by
  simp [ofParts?, d.valid]

/-- The number of days before a year. -/
def daysBeforeYear (year : Nat) : Nat :=
  let y := year - 1
  y * 365 + y / 4 - y / 100 + y / 400

/-- The number of days before a month in its year. -/
def daysBeforeMonth (year month : Nat) : Nat :=
  (List.range (month - 1)).foldl (fun days m => days + daysInMonth year (m + 1)) 0

def dayOfYear (d : Date) : Nat := daysBeforeMonth d.year d.month + d.day

def dayNumber (d : Date) : Nat := daysBeforeYear d.year + d.dayOfYear

/-- Days since the last Monday, from zero to six. -/
def weekday (d : Date) : Nat := (d.dayNumber + 6) % 7

/-- The year that holds a day, counted from the start of `year`, and the day's place in it. -/
def findYear : Nat → Nat → Nat → Nat × Nat
  | 0, year, days => (year, days)
  | fuel + 1, year, days =>
    if days < daysInYear year then (year, days)
    else findYear fuel (year + 1) (days - daysInYear year)

/-- The month that holds a day of a year, and the day's place in it. -/
def findMonth (year : Nat) : Nat → Nat → Nat → Nat × Nat
  | 0, month, days => (month, days)
  | fuel + 1, month, days =>
    if days < daysInMonth year month then (month, days)
    else findMonth year fuel (month + 1) (days - daysInMonth year month)

/-- The date of a numbered day, if its year is at most 9999. -/
def ofDayNumber? (n : Nat) : Option Date :=
  if n = 0 then none
  else
    let cycles := (n - 1) / 146097
    let (year, rest) := findYear 400 (400 * cycles + 1) ((n - 1) % 146097)
    let (month, rest) := findMonth year 12 1 rest
    ofParts? year month (rest + 1)

end Date

def monthNames : List String :=
  ["January", "February", "March", "April", "May", "June", "July", "August", "September",
    "October", "November", "December"]

/-- The days of the week from Monday on. -/
def dayNames : List String :=
  ["Monday", "Tuesday", "Wednesday", "Thursday", "Friday", "Saturday", "Sunday"]

end Pinboard.Time
