import Pinboard.Number.Decimal
import Pinboard.Time.Calendar

/-!
# Timestamps

A moment written as a date and a time of day, with the distance of its clock from UTC or without
any. Two timestamps with an offset denote the same moment if their instants are equal, whatever
their offsets.
-/
namespace Pinboard.Time

/-- What the parts of a time of day have to satisfy. -/
def ValidClock (hour minute second micro : Nat) : Prop :=
  hour < 24 ∧ minute < 60 ∧ second < 60 ∧ micro < 1000000

instance (hour minute second micro : Nat) : Decidable (ValidClock hour minute second micro) := by
  unfold ValidClock; infer_instance

structure Clock where
  hour : Nat
  minute : Nat
  second : Nat
  micro : Nat
  valid : ValidClock hour minute second micro
  deriving DecidableEq, Repr

/-- The distance of a clock from UTC in minutes, less than a day either way. -/
structure Offset where
  minutes : Int
  bounded : minutes.natAbs < 1440
  deriving DecidableEq, Repr

namespace Clock

def ofParts? (hour minute second micro : Nat) : Option Clock :=
  if h : ValidClock hour minute second micro then some ⟨hour, minute, second, micro, h⟩ else none

@[simp] theorem ofParts?_eq (c : Clock) :
    ofParts? c.hour c.minute c.second c.micro = some c := by
  simp [ofParts?, c.valid]

def midnight : Clock := ⟨0, 0, 0, 0, by decide⟩

/-- Microseconds since midnight. -/
def micros (c : Clock) : Nat := ((c.hour * 60 + c.minute) * 60 + c.second) * 1000000 + c.micro

end Clock

def Offset.ofMinutes? (minutes : Int) : Option Offset :=
  if h : minutes.natAbs < 1440 then some ⟨minutes, h⟩ else none

@[simp] theorem Offset.ofMinutes?_eq (o : Offset) : ofMinutes? o.minutes = some o := by
  simp [ofMinutes?, o.bounded]

def Offset.utc : Offset := ⟨0, by decide⟩

/-- A date and a time of day, with an offset from UTC unless it is local time of no known place. -/
structure Timestamp where
  date : Date
  clock : Clock
  offset : Option Offset
  deriving DecidableEq, Repr

def microsPerDay : Nat := 86400000000

namespace Timestamp

def isAware (t : Timestamp) : Bool := t.offset.isSome

/-- Read a timestamp without offset as UTC. -/
def assumeUtc (t : Timestamp) : Timestamp :=
  match t.offset with
  | some _ => t
  | none => { t with offset := some .utc }

/-- Drop the offset and keep what the clock shows. -/
def withoutOffset (t : Timestamp) : Timestamp := { t with offset := none }

/-- Microseconds on the clock's own calendar. -/
def localMicros (t : Timestamp) : Int :=
  ((t.date.dayNumber * microsPerDay + t.clock.micros : Nat) : Int)

/-- Microseconds on the UTC calendar, a missing offset counting as UTC. -/
def instant (t : Timestamp) : Int :=
  t.localMicros - (t.offset.map (·.minutes)).getD 0 * 60000000

@[simp] theorem instant_assumeUtc (t : Timestamp) : t.assumeUtc.instant = t.instant := by
  unfold assumeUtc
  split
  · rfl
  · rename_i h
    simp [instant, localMicros, h, Offset.utc]

@[simp] theorem isAware_assumeUtc (t : Timestamp) : t.assumeUtc.isAware = true := by
  unfold assumeUtc
  split
  · rename_i h; simp [isAware, h]
  · rfl

/-- The UTC timestamp of an instant, if its year is one from 1 to 9999. -/
def ofInstant? (micros : Int) : Option Timestamp :=
  if micros < 0 then none
  else
    let n := micros.toNat
    let ofDay := n % microsPerDay
    match Date.ofDayNumber? (n / microsPerDay),
        Clock.ofParts? (ofDay / 3600000000) (ofDay / 60000000 % 60) (ofDay / 1000000 % 60)
          (ofDay % 1000000) with
    | some date, some clock => some { date, clock, offset := some .utc }
    | _, _ => none

/-- The same moment on the UTC clock. -/
def toUtc? (t : Timestamp) : Option Timestamp := ofInstant? t.instant

/-- The moment a number of microseconds later, on the UTC clock. -/
def plus? (t : Timestamp) (micros : Nat) : Option Timestamp := ofInstant? (t.instant + micros)

/-- Order of two timestamps; one with and one without offset have none. -/
def le? (a b : Timestamp) : Option Bool :=
  if a.isAware = b.isAware then some (decide (a.instant ≤ b.instant)) else none

def lt? (a b : Timestamp) : Option Bool :=
  if a.isAware = b.isAware then some (decide (a.instant < b.instant)) else none

end Timestamp
end Pinboard.Time
