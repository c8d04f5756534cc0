import BulkSuppress.Shell.Octets

/-
  Times as days of the calendar, all of them at the zero meridian, and the formats in which they are
  written: a percent sign, flags, a width and a letter for each part of a time.
-/

namespace BulkSuppress.Shell

/-- A second of a day. -/
structure Moment where
  /-- The number of days from the first of January 1970 on. -/
  day : Int
  /-- The number of seconds in that day. -/
  second : Nat
  nanosecond : Nat := 0

namespace Moment

/-- The moment that comes so many seconds after the start of 1970. -/
def ofSeconds (n : Int) : Moment := ⟨n.fdiv 86400, (n.fmod 86400).toNat, 0⟩

/-- The moment that comes so many nanoseconds after the start of 1970. -/
def ofNanoseconds (n : Int) : Moment :=
  { ofSeconds (n.fdiv 1000000000) with nanosecond := (n.fmod 1000000000).toNat }

/-- The number of seconds from the start of 1970 on. -/
def seconds (t : Moment) : Int := t.day * 86400 + t.second

/-- The days from the first of March of the year zero to the first of January 1970. -/
def dayOffset : Int := 719468

/-- The year, the month and the day of the month. -/
def date (t : Moment) : Int × Nat × Nat :=
  let z := t.day + dayOffset
  let era := z.fdiv 146097
  let ofEra := (z.fmod 146097).toNat
  let yearOfEra := (ofEra - ofEra / 1460 + ofEra / 36524 - ofEra / 146096) / 365
  let ofYear := ofEra - (365 * yearOfEra + yearOfEra / 4 - yearOfEra / 100)
  let shifted := (5 * ofYear + 2) / 153
  let day := ofYear - (153 * shifted + 2) / 5 + 1
  let month := if shifted < 10 then shifted + 3 else shifted - 9
  ((yearOfEra : Int) + era * 400 + (if month ≤ 2 then 1 else 0), month, day)

/-- The day of a date; months beyond the year lead into the next ones. -/
def dayOf (year : Int) (month day : Int) : Int :=
  let year := year + (month - 1).fdiv 12
  let month := (month - 1).fmod 12 + 1
  let y := if month ≤ 2 then year - 1 else year
  let era := y.fdiv 400
  let yearOfEra := y.fmod 400
  let ofYear := (153 * (month + (if month > 2 then -3 else 9)) + 2) / 5 + day - 1
  era * 146097 + (yearOfEra * 365 + yearOfEra / 4 - yearOfEra / 100 + ofYear) - dayOffset

/-- The day of the week; Sunday is the first one. -/
def weekday (t : Moment) : Nat := ((t.day + 4).fmod 7).toNat

/-- The number of days of the year before this one. -/
def yearDay (t : Moment) : Nat := (t.day - dayOf t.date.1 1 1).toNat

/-- The number of a week of the year, where weeks start with a day of the week. -/
def weekFrom (t : Moment) (start : Nat) : Nat := (t.yearDay + 7 - (t.weekday + 7 - start) % 7) / 7

/-- The week that has most of its days in a year, and that year. -/
def yearWeek (t : Moment) : Int × Nat :=
  let thursday : Moment := ⟨t.day - ((t.weekday + 6) % 7 : Nat) + 3, 0, 0⟩
  (thursday.date.1, thursday.yearDay / 7 + 1)

/-- The names of the days of the week. -/
def dayNames : List String :=
  ["Sunday", "Monday", "Tuesday", "Wednesday", "Thursday", "Friday", "Saturday"]

/-- The names of the months. -/
def monthNames : List String :=
  ["January", "February", "March", "April", "May", "June", "July", "August", "September",
    "October", "November", "December"]

/-! ## Formats -/

/-- How a part of a time is to be filled up and spelled. -/
structure Style where
  /-- The sign in front of numbers; a minus leaves it out. -/
  filler : Option Char := none
  isUpper : Bool := false
  isSwapped : Bool := false
  width : Option Nat := none
  colons : Nat := 0

/-- A number with so many digits. -/
def Style.number (s : Style) (usual : Char) (digits : Nat) (n : Int) : Octets :=
  let ds := (toString n.natAbs).toList
  let sign := if n < 0 then ['-'] else []
  let width := s.width.getD digits
  match s.filler.getD usual with
  | '-' => sign ++ ds
  | '_' => List.replicate (width - ds.length - sign.length) ' ' ++ sign ++ ds
  | _ => sign ++ List.replicate (width - ds.length - sign.length) '0' ++ ds

/-- A text in the space of a part. -/
def Style.text (s : Style) (cs : Octets) : Octets :=
  let cs := if s.isUpper then cs.map Char.toUpper
    else if s.isSwapped then
      if cs.any Char.isLower && !(cs.all fun c => !c.isUpper) then cs.map Char.toUpper
      else cs.map Char.toLower
    else cs
  let filler := if s.filler = some '0' || s.filler = some '+' then '0' else ' '
  List.replicate (s.width.getD 0 - cs.length) filler ++ cs

/-- The flags and the width at the front of what is behind a percent sign. -/
def style (s : Style) : Octets → Style × Octets
  | [] => (s, [])
  | c :: rest =>
    if c = '-' || c = '_' || c = '0' || c = '+' then style { s with filler := some c } rest
    else if c = '^' then style { s with isUpper := true } rest
    else if c = '#' then style { s with isSwapped := true } rest
    else
      let digits := (c :: rest).takeWhile isDigit
      let behind := (c :: rest).drop digits.length
      let behind := if behind.head? = some 'E' || behind.head? = some 'O' then behind.drop 1
        else behind
      let colons := (behind.takeWhile (· = ':')).length
      ({ s with width := decimal? digits, colons }, behind.drop colons)

/-- The hour of a clock with twelve hours. -/
def halfHour (t : Moment) : Nat :=
  let hour := t.second / 3600 % 12
  if hour = 0 then 12 else hour

/-- The first letters of a name. -/
def short (name : String) : Octets := name.toList.take 3

/-- The format that a letter stands for. -/
def expansion? (letter : Char) : Option String :=
  match letter with
  | 'c' => some "%a %b %e %H:%M:%S %Y"
  | 'D' | 'x' => some "%m/%d/%y"
  | 'F' => some "%Y-%m-%d"
  | 'r' => some "%I:%M:%S %p"
  | 'R' => some "%H:%M"
  | 'T' | 'X' => some "%H:%M:%S"
  | '+' => some "%a %b %e %H:%M:%S UTC %Y"
  | _ => none

/-- The part of a time that a letter stands for. -/
def part? (t : Moment) (s : Style) (letter : Char) : Option Octets :=
  let (year, month, day) := t.date
  let name (names : List String) (n : Nat) : Octets := (names[n]?.getD "").toList
  let (hour, minute, second) := (t.second / 3600, t.second / 60 % 60, t.second % 60)
  let zeros (digits : Nat) (n : Int) : Option Octets := some (s.number '0' digits n)
  match letter with
  | 'a' => some (s.text (short (dayNames[t.weekday]?.getD "")))
  | 'A' => some (s.text (name dayNames t.weekday))
  | 'b' | 'h' => some (s.text (short (monthNames[month - 1]?.getD "")))
  | 'B' => some (s.text (name monthNames (month - 1)))
  | 'C' => zeros 2 (year.fdiv 100)
  | 'd' => zeros 2 day
  | 'e' => some (s.number '_' 2 day)
  | 'g' => zeros 2 (t.yearWeek.1.fmod 100)
  | 'G' => zeros 4 t.yearWeek.1
  | 'H' => zeros 2 hour
  | 'I' => zeros 2 t.halfHour
  | 'j' => zeros 3 (t.yearDay + 1)
  | 'k' => some (s.number '_' 2 hour)
  | 'l' => some (s.number '_' 2 t.halfHour)
  | 'm' => zeros 2 month
  | 'M' => zeros 2 minute
  | 'n' => some ['\n']
  | 'p' => some (s.text (if hour < 12 then "AM" else "PM").toList)
  | 'P' => some (s.text (if hour < 12 then "am" else "pm").toList)
  | 's' => zeros 1 t.seconds
  | 'S' => zeros 2 second
  | 't' => some ['\t']
  | 'u' => zeros 1 ((t.weekday + 6) % 7 + 1 : Nat)
  | 'U' => zeros 2 (t.weekFrom 0)
  | 'V' => zeros 2 t.yearWeek.2
  | 'w' => zeros 1 t.weekday
  | 'W' => zeros 2 (t.weekFrom 1)
  | 'y' => zeros 2 (year.fmod 100)
  | 'Y' => zeros 4 year
  | 'z' => some (match s.colons with
    | 0 => "+0000".toList
    | 1 => "+00:00".toList
    | 2 => "+00:00:00".toList
    | _ => "+00".toList)
  | 'Z' => some (s.text "UTC".toList)
  | '%' => some ['%']
  | _ => none

/-- A time in a format; the bound is on formats inside formats. -/
def formatted (fine : Bool) (t : Moment) : Nat → Octets → Octets
  | 0, _ | _, [] => []
  | n + 1, '%' :: rest =>
    let (s, behind) := style {} rest
    match behind with
    | [] => '%' :: rest
    | letter :: after =>
      let own : Octets :=
        if fine && letter = 'N' then
          let ds := (toString t.nanosecond).toList
          let ds := List.replicate (9 - ds.length) '0' ++ ds
          match s.width with
          | some w => ds.take w
          | none => ds
        else
          match expansion? letter with
          | some format => s.text (formatted fine t n format.toList)
          | none =>
            match part? t s letter with
            | some cs => cs
            | none => '%' :: rest.take (rest.length - after.length)
      own ++ formatted fine t n after
  | n + 1, c :: rest => c :: formatted fine t n rest

/-- A time in a format; parts of seconds only count if that is said. -/
def format (fine : Bool) (t : Moment) (cs : Octets) : Octets := t.formatted fine (cs.length + 12) cs

end Moment
end BulkSuppress.Shell
