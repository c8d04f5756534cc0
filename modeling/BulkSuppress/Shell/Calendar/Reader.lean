import BulkSuppress.Shell.Calendar

/-
  Times as people write them. Their parts are numbers with or without a sign, signs between them, and
  words for months, days of the week, zones, units and whatever is next or last. A time is given by a
  date, a time of day, a day of the week and a zone, each at most once and in any order, and by so
  many units of time before or behind it. What is not given is that of the present; a date or a day
  of the week by itself starts at midnight.
-/

namespace BulkSuppress.Shell.Calendar

/-- A part of a written time. -/
inductive Token where
  | unsigned (value digits : Nat)
  | signed (value : Int) (digits : Nat)
  /-- A number with a fraction, in nanoseconds. -/
  | decimal (value : Int) (isSigned : Bool)
  | month (number : Nat)
  | weekday (number : Nat)
  | ordinal (value : Int)
  | years | months
  /-- A unit of so many days. -/
  | days (count : Nat)
  /-- A unit of so many seconds. -/
  | seconds (count : Nat)
  | dayShift (count : Int)
  | ago
  | meridian (isAfternoon : Bool)
  /-- A zone, by the minutes that it is ahead; clocks may be put forward there in summer. -/
  | zone (minutes : Int) (isSummer : Bool)
  | summer
  /-- The letter between a date and a time, or a zone. -/
  | between
  | sign (c : Char)
deriving DecidableEq, Repr

namespace Token

/-- The names of months, with the shorter ones that they have besides their first letters. -/
def months' : List (String × Nat) :=
  [("JANUARY", 1), ("FEBRUARY", 2), ("MARCH", 3), ("APRIL", 4), ("MAY", 5), ("JUNE", 6),
    ("JULY", 7), ("AUGUST", 8), ("SEPTEMBER", 9), ("SEPT", 9), ("OCTOBER", 10),
    ("NOVEMBER", 11), ("DECEMBER", 12)]

/-- The names of days of the week, Sunday first. -/
def weekdays : List (String × Nat) :=
  [("SUNDAY", 0), ("MONDAY", 1), ("TUESDAY", 2), ("TUES", 2), ("WEDNESDAY", 3), ("WEDNES", 3),
    ("THURSDAY", 4), ("THUR", 4), ("THURS", 4), ("FRIDAY", 5), ("SATURDAY", 6)]

/-- The names of zones with the hours that they are ahead, halves apart. -/
def zones : List (String × Int × Bool) :=
  [("GMT", 0, false), ("UT", 0, false), ("UTC", 0, false), ("WET", 0, false), ("WEST", 0, true),
    ("BST", 0, true), ("ART", -180, false), ("BRT", -180, false), ("BRST", -180, true),
    ("NST", -210, false), ("NDT", -210, true), ("AST", -240, false), ("ADT", -240, true),
    ("CLT", -240, false), ("CLST", -240, true), ("EST", -300, false), ("EDT", -300, true),
    ("CST", -360, false), ("CDT", -360, true), ("MST", -420, false), ("MDT", -420, true),
    ("PST", -480, false), ("PDT", -480, true), ("AKST", -540, false), ("AKDT", -540, true),
    ("HST", -600, false), ("HAST", -600, false), ("HADT", -600, true), ("SST", -720, false),
    ("WAT", 60, false), ("CET", 60, false), ("CEST", 60, true), ("MET", 60, false),
    ("MEZ", 60, false), ("MEST", 60, true), ("MESZ", 60, true), ("EET", 120, false),
    ("EEST", 120, true), ("CAT", 120, false), ("SAST", 120, false), ("EAT", 180, false),
    ("MSK", 180, false), ("MSD", 180, true), ("IST", 330, false), ("SGT", 480, false),
    ("KST", 540, false), ("JST", 540, false), ("GST", 600, false), ("NZST", 720, false),
    ("NZDT", 720, true)]

/-- The names of units. -/
def units : List (String × Token) :=
  [("YEAR", .years), ("MONTH", .months), ("FORTNIGHT", .days 14), ("WEEK", .days 7),
    ("DAY", .days 1), ("HOUR", .seconds 3600), ("MINUTE", .seconds 60), ("MIN", .seconds 60),
    ("SECOND", .seconds 1), ("SEC", .seconds 1)]

/-- The words that place a time before or behind another one. -/
def relations : List (String × Token) :=
  [("TOMORROW", .dayShift 1), ("YESTERDAY", .dayShift (-1)), ("TODAY", .dayShift 0),
    ("NOW", .dayShift 0), ("LAST", .ordinal (-1)), ("THIS", .ordinal 0), ("NEXT", .ordinal 1),
    ("FIRST", .ordinal 1), ("THIRD", .ordinal 3), ("FOURTH", .ordinal 4), ("FIFTH", .ordinal 5),
    ("SIXTH", .ordinal 6), ("SEVENTH", .ordinal 7), ("EIGHTH", .ordinal 8), ("NINTH", .ordinal 9),
    ("TENTH", .ordinal 10), ("ELEVENTH", .ordinal 11), ("TWELFTH", .ordinal 12), ("AGO", .ago)]

/-- The zone that a letter stands for. -/
def lettered? (c : Char) : Option Token :=
  let n : Int := (c.toNat : Int) - 64
  if c = 'T' then some .between
  else if c = 'J' || c = 'Z' then some (.zone 0 false)
  else if n < 1 || 26 < n then none
  else if n ≤ 9 then some (.zone (n * 60) false)
  else if n ≤ 13 then some (.zone ((n - 1) * 60) false)
  else some (.zone (-((n - 13) * 60)) false)

/-- What a word in capital letters stands for. -/
def ofWord? (word : String) : Option Token :=
  let cs := word.toList
  let isShort := cs.length = 3 || (cs.length = 4 && cs[3]? = some '.')
  let named (table : List (String × Nat)) : Option Nat :=
    (table.find? fun n => if isShort then n.1.toList.take 3 = cs.take 3 else n.1 = word).map (·.2)
  let zone? (word : String) : Option Token := (zones.lookup word).map fun z => .zone z.1 z.2
  let plain := String.ofList (cs.filter (· ≠ '.'))
  let singular := if cs.getLast? = some 'S' then String.ofList cs.dropLast else word
  if word = "AM" || word = "A.M." then some (.meridian false)
  else if word = "PM" || word = "P.M." then some (.meridian true)
  else
    ((named months').map Token.month).or <| ((named weekdays).map Token.weekday).or <|
      (zone? word).or <| (if word = "DST" then some .summer else none).or <|
      (units.lookup word).or <| (units.lookup singular).or <| (relations.lookup word).or <|
      (match cs with
        | [c] => lettered? c
        | _ => none).or <|
      if plain = word then none else zone? plain

/-- A blank between parts. -/
def isBlank (c : Char) : Bool := c = ' ' || ('\t' ≤ c && c ≤ '\r')

/-- What is behind a note in parentheses, of which some are open. -/
def behindNote : Nat → Octets → Octets
  | _, [] => []
  | depth, c :: cs =>
    if c = '(' then behindNote (depth + 1) cs
    else if c = ')' then (if depth ≤ 1 then cs else behindNote (depth - 1) cs)
    else behindNote depth cs

/-- The number at the front of a text, where it may have a fraction, and what is behind it. -/
def number (negative : Option Bool) (cs : Octets) : Token × Octets :=
  let digits := cs.takeWhile isDigit
  let rest := cs.drop digits.length
  let value := numberIn 10 digits
  let signed (n : Int) : Int := if negative = some true then -n else n
  match rest with
  | mark :: d :: more =>
    if (mark = '.' || mark = ',') && isDigit d then
      let fraction := (d :: more).takeWhile isDigit
      let shown := (fraction ++ List.replicate 9 '0').take 9
      let below := numberIn 10 shown
      let more' := negative = some true && fraction.any (· ≠ '0') &&
        (fraction.drop 9).any (· ≠ '0')
      (.decimal (signed (value * 1000000000 + below + if more' then 1 else 0)) negative.isSome,
        (d :: more).drop fraction.length)
    else (plain value digits.length, rest)
  | _ => (plain value digits.length, rest)
where
  /-- A number without a fraction. -/
  plain (value digits : Nat) : Token :=
    match negative with
    | none => .unsigned value digits
    | some true => .signed (-(value : Int)) digits
    | some false => .signed value digits

/-- The parts of a text, if all words in it mean something; the bound is on its length. -/
def read? : Nat → Octets → Option (List Token)
  | 0, _ => some []
  | n + 1, cs =>
    match cs.dropWhile isBlank with
    | [] => some []
    | c :: rest =>
      if isDigit c then
        let (t, behind) := number none (c :: rest)
        (read? n behind).map (t :: ·)
      else if c = '-' || c = '+' then
        let behind := rest.dropWhile isBlank
        if behind.head?.any isDigit then
          let (t, behind) := number (some (c = '-')) behind
          (read? n behind).map (t :: ·)
        else read? n behind
      else if isLetter c then
        let letters := (c :: rest).takeWhile fun c => isLetter c || c = '.'
        match ofWord? (String.ofList ((letters.take 19).map Char.toUpper)) with
        | some t => (read? n ((c :: rest).drop letters.length)).map (t :: ·)
        | none => none
      else if c = '(' then read? n (behindNote 0 (c :: rest))
      else (read? n rest).map (.sign c :: ·)

end Token

/-- What has been read of a time. -/
structure Written where
  /-- The year with the number of its digits. -/
  year : Option (Int × Nat) := none
  month : Int
  day : Int
  hour : Int
  minute : Int
  /-- The seconds of a minute, in nanoseconds. -/
  second : Int
  /-- It is after noon, where hours are counted from noon and midnight on. -/
  afternoon : Option Bool := none
  dates : Nat := 0
  times : Nat := 0
  /-- A day of the week, and the week that is meant. -/
  weekday : Option (Int × Nat) := none
  weekdays : Nat := 0
  /-- The minutes that the zone is ahead. -/
  zone : Option Int := none
  zones : Nat := 0
  moves : Bool := false
  moreYears : Int := 0
  moreMonths : Int := 0
  moreDays : Int := 0
  /-- In nanoseconds. -/
  more : Int := 0

namespace Written

/-- The present, of which nothing has been read. -/
def start (now : Int) : Written :=
  let t := Moment.ofSeconds (now.fdiv 1000000000)
  let (_, month, day) := t.date
  { month, day, hour := t.second / 3600, minute := t.second / 60 % 60
    second := (t.second % 60 : Nat) * 1000000000 + now.fmod 1000000000 }

/-- A time of day has been read. -/
def atTime (w : Written) (hour minute second : Int) (afternoon : Option Bool) : Written :=
  { w with hour, minute, second, afternoon, times := w.times + 1 }

/-- A date has been read. -/
def onDate (w : Written) (year : Option (Int × Nat)) (month day : Int) : Written :=
  { w with year := year.or w.year, month, day, dates := w.dates + 1 }

/-- A zone has been read. -/
def inZone (w : Written) (minutes : Int) : Written :=
  { w with zone := some minutes, zones := w.zones + 1 }

/-- So many units have been read. -/
def moved? (w : Written) (count : Int) : Token → Option Written
  | .years => some { w with moves := true, moreYears := w.moreYears + count }
  | .months => some { w with moves := true, moreMonths := w.moreMonths + count }
  | .days n => some { w with moves := true, moreDays := w.moreDays + count * n }
  | .seconds n => some { w with moves := true, more := w.more + count * n * 1000000000 }
  | _ => none

/-- So many units have been read, or as many ago, as what follows says. -/
def movedOrAgo? (w : Written) (count : Int) (unit : Token) (rest : List Token) :
    Option (Written × List Token) :=
  match rest with
  | .ago :: behind => (w.moved? (-count) unit).map (·, behind)
  | _ => (w.moved? count unit).map (·, rest)

/-- The minutes of an offset from a zone, as hours or hours and minutes. -/
def offset? (hours : Int) (digits : Nat) (minutes : Option Nat) : Option Int :=
  let size : Int := hours.natAbs
  let total : Int := match minutes with
    | some m => size * 60 + m
    | none => if digits ≤ 2 then size * 60 else size / 100 * 60 + size % 100
  if 1440 < total then none else some (if hours < 0 then -total else total)

/-- An offset behind a time, if there is one. -/
def withOffset? (w : Written) : List Token → Option (Written × List Token)
  | .signed n d :: .sign ':' :: .unsigned m _ :: rest =>
    (offset? n d (some m)).map fun z => (w.inZone z, rest)
  | .signed n d :: rest => (offset? n d none).map fun z => (w.inZone z, rest)
  | rest => some (w, rest)

/-- The seconds that a part is, in nanoseconds. -/
def seconds? : Token → Option Int
  | .unsigned n _ => some (n * 1000000000)
  | .decimal n false => some n
  | _ => none

/-- A time of day that starts with hours and minutes. -/
def clock? (w : Written) (hour minute : Nat) (rest : List Token) :
    Option (Written × List Token) :=
  match rest with
  | .sign ':' :: t :: more =>
    match seconds? t with
    | none => none
    | some second => finish (w.atTime hour minute second) more
  | more => finish (w.atTime hour minute 0) more
where
  /-- What may stand behind a time of day. -/
  finish (at' : Option Bool → Written) : List Token → Option (Written × List Token)
    | .meridian pm :: rest => some (at' (some pm), rest)
    | rest => (at' none).withOffset? rest

/-- A time of day in its usual form, behind the letter for it. -/
def strictClock? (w : Written) : List Token → Option (Written × List Token)
  | .unsigned hour _ :: .sign ':' :: .unsigned minute _ :: .sign ':' :: t :: rest =>
    (seconds? t).bind fun second => (w.atTime hour minute second none).withOffset? rest
  | .unsigned hour _ :: .sign ':' :: .unsigned minute _ :: rest =>
    (w.atTime hour minute 0 none).withOffset? rest
  | .unsigned hour _ :: .signed n d :: rest =>
    (w.atTime hour 0 0 none).withOffset? (.signed n d :: rest)
  | _ => none

/-- A number by itself, which is a year, a date or a time of day. -/
def lone (w : Written) (n digits : Nat) : Written :=
  let hasYear := match w.year with
    | some (_, d) => d ≠ 0
    | none => false
  if w.dates ≠ 0 && !hasYear && !w.moves && (w.times ≠ 0 || 2 < digits) then
    { w with year := some (n, digits) }
  else if 4 < digits then
    w.onDate (some ((n / 10000 : Nat), digits - 4)) (n / 100 % 100 : Nat) (n % 100 : Nat)
  else if digits ≤ 2 then w.atTime n 0 0 none
  else w.atTime (n / 100 : Nat) (n % 100 : Nat) 0 none

/-- A zone, and what may stand behind it. -/
def zoned? (w : Written) (minutes : Int) (isSummer : Bool) (rest : List Token) :
    Option (Written × List Token) :=
  if isSummer then some (w.inZone (minutes + 60), rest)
  else match rest with
    | .summer :: behind => some (w.inZone (minutes + 60), behind)
    | .signed n d :: behind =>
      match behind with
      | .sign ':' :: .unsigned m _ :: more =>
        (offset? n d (some m)).map fun z => (w.inZone (minutes + z), more)
      | unit :: more =>
        match w.moved? n unit with
        | some moved => some (moved.inZone minutes, more)
        | none => (offset? n d none).map fun z => (w.inZone (minutes + z), unit :: more)
      | [] => (offset? n d none).map fun z => (w.inZone (minutes + z), [])
    | rest => some (w.inZone minutes, rest)

/-- What starts with a number without a sign. -/
def numbered? (w : Written) (n digits : Nat) (rest : List Token) : Option (Written × List Token) :=
  match rest with
  | .sign ':' :: .unsigned minute _ :: more => w.clock? n minute more
  | .sign '/' :: .unsigned b _ :: .sign '/' :: .unsigned c d :: more =>
    if 4 ≤ digits then some (w.onDate (some (n, digits)) b c, more)
    else some (w.onDate (some (c, d)) n b, more)
  | .sign '/' :: .unsigned b _ :: more => some (w.onDate none n b, more)
  | .meridian pm :: more => some (w.atTime n 0 0 (some pm), more)
  | .month month :: .signed year d :: more => some (w.onDate (some (-year, d)) month n, more)
  | .month month :: .unsigned year d :: more => some (w.onDate (some (year, d)) month n, more)
  | .month month :: more => some (w.onDate none month n, more)
  | .signed a _ :: .signed b _ :: more =>
    let dated := w.onDate (some (n, digits)) (-a) (-b)
    match more with
    | .between :: behind => dated.strictClock? behind
    | more => some (dated, more)
  | .signed a d :: unit :: more =>
    match (w.lone n digits).movedOrAgo? a unit more with
    | some r => some r
    | none => (w.atTime n 0 0 none).withOffset? (.signed a d :: unit :: more)
  | .signed a d :: [] => (w.atTime n 0 0 none).withOffset? [.signed a d]
  | .weekday day :: more =>
    some ({ w with weekday := some (n, day), weekdays := w.weekdays + 1 }, more)
  | unit :: more =>
    match w.movedOrAgo? n unit more with
    | some r => some r
    | none => some (w.lone n digits, unit :: more)
  | [] => some (w.lone n digits, [])

/-- What the parts at the front mean together, and the parts behind them. -/
def next? (w : Written) : List Token → Option (Written × List Token)
  | .unsigned n d :: rest => w.numbered? n d rest
  | .signed n _ :: unit :: rest => w.movedOrAgo? n unit rest
  | .decimal n _ :: .seconds 1 :: rest =>
    let isAgo := rest.head? = some .ago
    let moved := { w with moves := true, more := w.more + if isAgo then -n else n }
    some (moved, rest.drop (if isAgo then 1 else 0))
  | .month month :: .signed day _ :: .signed year d :: rest =>
    some (w.onDate (some (-year, d)) month (-day), rest)
  | .month month :: .unsigned day _ :: .sign ',' :: .unsigned year d :: rest =>
    some (w.onDate (some (year, d)) month day, rest)
  | .month month :: .unsigned day _ :: rest => some (w.onDate none month day, rest)
  | .weekday day :: rest =>
    let rest := if rest.head? = some (.sign ',') then rest.drop 1 else rest
    some ({ w with weekday := some (0, day), weekdays := w.weekdays + 1 }, rest)
  | .ordinal n :: .weekday day :: rest =>
    some ({ w with weekday := some (n, day), weekdays := w.weekdays + 1 }, rest)
  | .ordinal n :: unit :: rest => w.movedOrAgo? n unit rest
  | .dayShift n :: rest =>
    some ({ w with moves := true, moreDays := w.moreDays + n }, rest)
  | .zone minutes isSummer :: rest => w.zoned? minutes isSummer rest
  | .between :: rest => w.zoned? (-420) false rest
  | unit :: rest => w.movedOrAgo? 1 unit rest
  | [] => none

/-- What all parts mean together; the bound is on their number. -/
def readAll? : Nat → Written → List Token → Option Written
  | _, w, [] => some w
  | 0, _, _ => none
  | n + 1, w, ts => (w.next? ts).bind fun (w, rest) => readAll? n w rest

/-- The number of days of a month. -/
def daysIn (year month : Int) : Int := Moment.dayOf year (month + 1) 1 - Moment.dayOf year month 1

/-- The hour of the day, if it is one. -/
def hour? (w : Written) : Option Int :=
  match w.afternoon with
  | none => if 0 ≤ w.hour && w.hour < 24 then some w.hour else none
  | some pm =>
    if 0 < w.hour && w.hour < 12 then some (w.hour + if pm then 12 else 0)
    else if w.hour = 12 then some (if pm then 12 else 0) else none

/-- The time that has been read, in nanoseconds from the start of 1970 on. -/
def time? (w : Written) (now : Int) : Option Int := do
  guard (w.dates ≤ 1 && w.times ≤ 1 && w.weekdays ≤ 1 && w.zones ≤ 1)
  let present := (Moment.ofSeconds (now.fdiv 1000000000)).date.1
  let year : Int := match w.year with
    | none => present
    | some (y, digits) => if digits = 2 then y + (if y < 69 then 2000 else 1900) else y
  let keepsTime := w.times ≠ 0 || (w.moves && w.dates = 0 && w.weekdays = 0)
  let hour ← if keepsTime then w.hour? else some 0
  let minute := if keepsTime then w.minute else 0
  let second := if keepsTime then w.second else 0
  guard (1 ≤ w.month && w.month ≤ 12 && 1 ≤ w.day && w.day ≤ daysIn year w.month)
  guard (0 ≤ minute && minute < 60 && 0 ≤ second && second < 60 * 1000000000)
  let plain := Moment.dayOf year w.month w.day
  let own : Nat := ((plain + 4).fmod 7).toNat
  let plain := match w.weekday with
    | some (week, day) =>
      if w.dates ≠ 0 then plain
      else
        plain + (((day : Int) - own + 7).fmod 7) +
          7 * (week - if 0 < week && own ≠ day then 1 else 0)
    | none => plain
  let (y, m, d) := (⟨plain, 0, 0⟩ : Moment).date
  let day := if w.moreYears = 0 && w.moreMonths = 0 then plain + w.moreDays
    else Moment.dayOf (y + w.moreYears) ((m : Int) + w.moreMonths) 1 + ((d : Int) - 1) + w.moreDays
  let ofDay := hour * 3600 + minute * 60 - w.zone.getD 0 * 60
  return (day * 86400 + ofDay) * 1000000000 + second + w.more

end Written

/--
The time that a text spells, in nanoseconds from the start of 1970 on; what it leaves out is that of
the present.
-/
def read? (now : Int) (cs : Octets) : Option Int := do
  let ts ← Token.read? (cs.length + 1) (withoutZone cs)
  match ts with
  | .sign '@' :: rest =>
    match rest with
    | [.unsigned n _] => return (n : Int) * 1000000000
    | [.signed n _] => return n * 1000000000
    | [.decimal n _] => return n
    | _ => none
  | ts => (← Written.readAll? (ts.length + 1) (Written.start now) ts).time? now
where
  /-- The text without a zone in quotes in front of it, if that is the meridian one. -/
  withoutZone (cs : Octets) : Octets :=
    let cs := cs.dropWhile Token.isBlank
    let mark : Octets := "TZ=\"".toList
    if mark.isPrefixOf cs then ((cs.drop mark.length).dropWhile (· ≠ '"')).drop 1 else cs

end BulkSuppress.Shell.Calendar
