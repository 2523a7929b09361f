import Pinboard.Number.Decimal
import Pinboard.Text.Uppercase
import Pinboard.Time.Timestamp

/-!
# Formatted dates and times

A format is text with conversions: a percent sign, flags that choose the filling and the case, a
width, a modifier and a letter. Names of days and months are English. Local time has no zone name
and no offset, so the zone conversions give nothing. A conversion that does not exist stands for
itself. A text that outgrows the room its format is given is not written at all.
-/
namespace Pinboard.Time

/-- Flags, width and modifier of a conversion. -/
structure Conversion where
  /-- The last of the flags that choose the filling: a blank, a zero, or none at all. -/
  filling : Option Char
  /-- Whether letters are made capital. -/
  capital : Bool
  /-- Whether the case of a name is changed. -/
  swapped : Bool
  width : Nat
  /-- The alternative-form modifier, `E` or `O`. -/
  modifier : Option Char
  /-- The letter that says what is written; missing at the end of a format. -/
  letter : Option Char

/-- What a conversion writes. -/
inductive Field where
  | text (s : String)
  /-- A name, which the swap flag makes capital. -/
  | name (s : String)
  /-- Half of the day, which the swap flag makes small whatever the other flags say. -/
  | half (s : String)
  /-- Text in small letters under every flag. -/
  | small (s : String)
  | number (digits value : Nat) (filling : Char)

def weekOfYear (dayIndex sinceWeekStart : Nat) : Nat := (dayIndex + 7 - sinceWeekStart) / 7

/-- Whether the year has 53 weeks, a week belonging to the year of its Thursday. -/
def hasLongYear (year : Nat) : Bool :=
  let first := (Date.daysBeforeYear year + 1 + 6) % 7
  first == 3 || (isLeap year && first == 2)

/-- The year and number of a date's week, a week belonging to the year of its Thursday. -/
def Date.week (d : Date) : Nat × Nat :=
  let n := (d.dayOfYear + 9 - d.weekday) / 7
  if n = 0 then (d.year - 1, if hasLongYear (d.year - 1) then 53 else 52)
  else if n = 53 && !hasLongYear d.year then (d.year + 1, 1)
  else (d.year, n)

def Date.monthName (d : Date) : String := monthNames[d.month - 1]?.getD ""

def Date.dayName (d : Date) : String := dayNames[d.weekday]?.getD ""

def abbreviated (s : String) : String := String.ofList (s.toList.take 3)

def Clock.hour12 (c : Clock) : Nat := (c.hour + 11) % 12 + 1

def two (n : Nat) : String := String.ofList (Number.padded 2 n)

def Clock.text (c : Clock) : String := two c.hour ++ ":" ++ two c.minute ++ ":" ++ two c.second

def halfOfDay (c : Clock) : String := if c.hour < 12 then "AM" else "PM"

def shortDate (d : Date) : String := two d.month ++ "/" ++ two d.day ++ "/" ++ two (d.year % 100)

/-- The field of a conversion letter. -/
def field? (d : Date) (c : Clock) (letter : Char) : Option Field :=
  match letter with
  | 'a' => some (.name (abbreviated d.dayName))
  | 'A' => some (.name d.dayName)
  | 'b' => some (.name (abbreviated d.monthName))
  | 'h' => some (.name (abbreviated d.monthName))
  | 'B' => some (.name d.monthName)
  | 'c' => some (.text (abbreviated d.dayName ++ " " ++ abbreviated d.monthName ++ " "
      ++ (if d.day < 10 then " " else "") ++ Number.natText d.day ++ " " ++ c.text ++ " "
      ++ Number.natText d.year))
  | 'C' => some (.number 1 (d.year / 100) '0')
  | 'd' => some (.number 2 d.day '0')
  | 'D' => some (.text (shortDate d))
  | 'e' => some (.number 2 d.day ' ')
  | 'F' => some (.text (Number.natText d.year ++ "-" ++ two d.month ++ "-" ++ two d.day))
  | 'g' => some (.number 2 (d.week.1 % 100) '0')
  | 'G' => some (.number 1 d.week.1 '0')
  | 'H' => some (.number 2 c.hour '0')
  | 'I' => some (.number 2 c.hour12 '0')
  | 'j' => some (.number 3 d.dayOfYear '0')
  | 'k' => some (.number 2 c.hour ' ')
  | 'l' => some (.number 2 c.hour12 ' ')
  | 'm' => some (.number 2 d.month '0')
  | 'M' => some (.number 2 c.minute '0')
  | 'n' => some (.text "\n")
  | 'p' => some (.half (halfOfDay c))
  | 'P' => some (.small (Text.lower (halfOfDay c)))
  | 'r' => some (.text (two c.hour12 ++ ":" ++ two c.minute ++ ":" ++ two c.second ++ " "
      ++ halfOfDay c))
  | 'R' => some (.text (two c.hour ++ ":" ++ two c.minute))
  | 's' =>
    let t : Timestamp := ⟨d, c, none⟩
    some (.text (Number.intText (Int.fdiv t.instant 1000000 - 62135683200)))
  | 'S' => some (.number 2 c.second '0')
  | 't' => some (.text "\t")
  | 'T' => some (.text c.text)
  | 'u' => some (.number 1 (d.weekday + 1) '0')
  | 'U' => some (.number 2 (weekOfYear (d.dayOfYear - 1) ((d.weekday + 1) % 7)) '0')
  | 'V' => some (.number 2 d.week.2 '0')
  | 'w' => some (.number 1 ((d.weekday + 1) % 7) '0')
  | 'W' => some (.number 2 (weekOfYear (d.dayOfYear - 1) d.weekday) '0')
  | 'x' => some (.text (shortDate d))
  | 'X' => some (.text c.text)
  | 'y' => some (.number 2 (d.year % 100) '0')
  | 'Y' => some (.number 1 d.year '0')
  | 'Z' => some (.text "")
  | '%' => some (.text "%")
  | _ => none

/-- Whether a modifier may stand before a letter. -/
def modifierFits : Option Char → Char → Bool
  | none, _ => true
  | some 'E', letter => !"abdeghjklmwABDFGHIMSUVW".toList.contains letter
  | some _, letter => !"acxADFXY".toList.contains letter

/-! ## Filling -/

/-- Written text with as many fillers in front as its width asks for. -/
structure Piece where
  fillers : Nat
  filler : Char
  body : List Char

def Piece.length (p : Piece) : Nat := p.fillers + p.body.length

def Piece.chars (p : Piece) : List Char := List.replicate p.fillers p.filler ++ p.body

def fillTo (width : Nat) (filler : Char) (body : List Char) : Piece :=
  ⟨width - body.length, filler, body⟩

def capitals (cs : List Char) : List Char := cs.map Text.capital

/-- Text under a width; it is filled with blanks unless zeros are asked for. -/
def Conversion.fill (v : Conversion) (body : List Char) : Piece :=
  fillTo v.width (if v.filling = some '0' then '0' else ' ') body

/-- Text under a width, its letters capital if a flag says so. -/
def Conversion.fillText (v : Conversion) (capital : Bool) (s : String) : Piece :=
  v.fill (if capital then capitals s.toList else s.toList)

def Conversion.write (v : Conversion) : Field → Piece
  | .text s => v.fillText v.capital s
  | .name s => v.fillText (v.capital || v.swapped) s
  | .small s => v.fillText false s
  | .half s => if v.swapped then v.fillText false (Text.lower s) else v.fillText v.capital s
  | .number digits value default =>
    let body := Number.digits value
    match v.filling with
    | some '-' => fillTo v.width ' ' body
    | some '_' => fillTo (max digits v.width) ' ' body
    | some _ => fillTo (max digits v.width) '0' body
    | none => fillTo (max digits v.width) default body

/-- A conversion that does not exist, as it stands in the format. What precedes its last percent
sign is lost, and the swap flag counts for the short names of months alone. -/
def Conversion.writeItself (v : Conversion) (written : List Char) : Piece :=
  let capital := v.capital || (v.swapped && (v.letter = some 'b' || v.letter = some 'h'))
  let kept := if v.letter = some '%' then ['%'] else '%' :: written
  v.fill (if capital then capitals kept else kept)

/-! ## Reading a format -/

/-- The flags at the front. -/
def takeFlags (v : Conversion) : List Char → Conversion × List Char
  | c :: cs =>
    if c = '_' ∨ c = '-' ∨ c = '0' then takeFlags { v with filling := some c } cs
    else if c = '^' then takeFlags { v with capital := true } cs
    else if c = '#' then takeFlags { v with swapped := true } cs
    else (v, c :: cs)
  | [] => (v, [])

/-- The conversion after a percent sign, and what follows it. -/
def takeConversion (cs : List Char) : Conversion × List Char :=
  let (v, rest) := takeFlags ⟨none, false, false, 0, none, none⟩ cs
  let ds := rest.takeWhile fun c => '0' ≤ c && c ≤ '9'
  let v := { v with width := Number.ofDigitValues (ds.map fun c => c.toNat - 48) }
  match rest.drop ds.length with
  | [] => (v, [])
  | c :: rest =>
    if c = 'E' ∨ c = 'O' then
      ({ v with modifier := some c, letter := rest.head? }, rest.drop 1)
    else ({ v with letter := some c }, rest)

/-- What a conversion writes, given how it stands in the format. -/
def Conversion.piece (v : Conversion) (d : Date) (c : Clock) (written : List Char) : Piece :=
  match v.letter with
  | none => v.writeItself written
  | some 'z' => ⟨0, ' ', []⟩
  | some letter =>
    match field? d c letter with
    | none => v.writeItself written
    | some f => if modifierFits v.modifier letter then v.write f else v.writeItself written

/-- A format written out, its fuel its length; none if the text does not stay below the room. -/
def formatFrom? (d : Date) (c : Clock) : Nat → Nat → List Char → Option (List Char)
  | _, _, [] => some []
  | 0, _, _ :: _ => none
  | fuel + 1, room, '%' :: rest =>
    let (v, after) := takeConversion rest
    let piece := v.piece d c (rest.take (rest.length - after.length))
    if piece.length < room then
      (formatFrom? d c fuel (room - piece.length) after).map (piece.chars ++ ·)
    else none
  | fuel + 1, room, ch :: rest =>
    if 1 < room then (formatFrom? d c fuel (room - 1) rest).map (ch :: ·) else none

/-- The room for the text of a format of a length: a power of two that gives each character of the
format at least 256. -/
def roomFor (length : Nat) : Nat := max 1024 (256 * length).nextPowerOfTwo

/-- Settle the conversions without flags that hang on the zone or the microseconds, before the
others are read. -/
def settle (c : Clock) : List Char → List Char
  | '%' :: ch :: rest =>
    if ch = 'z' ∨ ch = 'Z' then settle c rest
    else if ch = 'f' then Number.padded 6 c.micro ++ settle c rest
    else '%' :: ch :: settle c rest
  | ch :: rest => ch :: settle c rest
  | [] => []

/-- A date and time of day under a format, which ends at its first NUL. -/
def format (d : Date) (c : Clock) (pattern : String) : String :=
  let cs := settle c (pattern.toList.takeWhile fun ch => ch.toNat != 0)
  String.ofList ((formatFrom? d c cs.length (roomFor cs.length) cs).getD [])

end Pinboard.Time
