import Pinboard.Time.Format

/-!
# Month tables

A month as a table of weeks that start on Sunday, under its name and the abbreviated days.
-/
namespace Pinboard.Time

/-- A day of the month in two places; blanks for a day of another month. -/
def dayCell : Option Nat → List Char
  | none => [' ', ' ']
  | some n => List.replicate (2 - (Number.digits n).length) ' ' ++ Number.digits n

/-- Cut into rows of seven. -/
def weeks : Nat → List (Option Nat) → List (List (Option Nat))
  | 0, _ => []
  | _, [] => []
  | fuel + 1, cells => cells.take 7 :: weeks fuel (cells.drop 7)

def trimEnd (cs : List Char) : List Char := (cs.reverse.dropWhile (· == ' ')).reverse

def weekLine (cells : List (Option Nat)) : String :=
  String.ofList (trimEnd ([' '].intercalate (cells.map dayCell)))

/-- The heading, centred over twenty columns. -/
def monthHeading (d : Date) : String :=
  let title := d.monthName ++ " " ++ Number.natText d.year
  String.ofList (List.replicate ((20 - title.length) / 2) ' ' ++ title.toList)

/-- The table of the month in which a date falls. -/
def monthTable (d : Date) : String :=
  let firstWeekday := (d.weekday + 1 + 35 - (d.day - 1)) % 7
  let cells := List.replicate firstWeekday none
    ++ (List.range (daysInMonth d.year d.month)).map fun n => some (n + 1)
  "\n".intercalate
    (monthHeading d :: "Su Mo Tu We Th Fr Sa" :: (weeks 6 cells).map weekLine)

end Pinboard.Time
