import AttrExpr.Binary64.Text
import AttrExpr.Calendar.Instant
import AttrExpr.Calendar.Pattern

/-! Writing dates and instants: their standard text, and text after a pattern. -/
set_option autoImplicit false

namespace AttrExpr

/-- A number filled up on the left to a width; its sign counts. Zeros go behind the sign. -/
def padNumber (padding : Padding) (width : Nat) (sign digits : List Char) : List Char :=
  let missing := width - (sign.length + digits.length)
  match padding with
  | .none => sign ++ digits
  | .zero => sign ++ List.replicate missing '0' ++ digits
  | .blank => List.replicate missing ' ' ++ sign ++ digits

/-- A natural number with zeros in front up to a width. -/
def padZeros (width n : Nat) : List Char := padNumber .zero width [] (natText n)

/-- A year: four digits when it has at most that many and no sign, and a sign otherwise. -/
def yearText (padding : Padding) (year : Int) : List Char :=
  if 0 ≤ year ∧ year < 10000 then padNumber padding 4 [] (natText year.natAbs)
  else padNumber padding 5 [if year < 0 then '-' else '+'] (natText year.natAbs)

namespace Date

/-- The standard text of a date: year, month and day with hyphens. -/
def text (date : Date) : List Char :=
  yearText .zero date.year ++ '-' :: (padZeros 2 date.month ++ '-' :: padZeros 2 date.day)

end Date

/-- The fewest digits of three, six or nine that are exact, after a point; none for zero. -/
def fractionText (nanosecond : Nat) : List Char :=
  if nanosecond = 0 then []
  else if nanosecond % 1000000 = 0 then '.' :: padZeros 3 (nanosecond / 1000000)
  else if nanosecond % 1000 = 0 then '.' :: padZeros 6 (nanosecond / 1000)
  else '.' :: padZeros 9 nanosecond

namespace TimeOfDay

/-- Hours, minutes and seconds with colons. -/
def clockText (time : TimeOfDay) : List Char :=
  padZeros 2 time.hour.val ++
    ':' :: (padZeros 2 time.minute.val ++ ':' :: padZeros 2 time.second.val)

end TimeOfDay

namespace Offset

/-- The sign, hours and minutes of an offset, with a colon if asked for. -/
def write (separator : List Char) (offset : Offset) : List Char :=
  let m := offset.minutes.natAbs
  (if offset.minutes < 0 then '-' else '+') ::
    (padZeros 2 (m / 60) ++ separator ++ padZeros 2 (m % 60))

def text (offset : Offset) : List Char := offset.write [':']

/-- The text of an offset, with a letter for universal time. -/
def shortText (offset : Offset) : List Char := if offset.minutes = 0 then ['Z'] else offset.text

def writeStyle : OffsetStyle → Offset → Option (List Char)
  | .plain, offset => some (offset.write [])
  | .colon, offset => some offset.text
  | .seconds, offset => some (offset.text ++ [':', '0', '0'])
  | .hours, offset => some ((offset.write []).take 3)
  | .lenient, _ => none

end Offset

namespace Instant

/-- Local date and time with the fraction given. -/
def localText (fraction : List Char) (instant : Instant) : List Char :=
  instant.date.text ++ 'T' :: (instant.time.clockText ++ fraction)

/-- The standard text of an instant, with as many digits as it needs and a numeric offset. -/
def text (instant : Instant) : List Char :=
  instant.localText (fractionText instant.time.nanosecond.val) ++ instant.offset.text

/-- The standard text with a letter for universal time. -/
def zuluText (instant : Instant) : List Char :=
  instant.localText (fractionText instant.time.nanosecond.val) ++ instant.offset.shortText

/-- The canonical text of an instant: exactly three digits, and a letter for universal time. -/
def canonicalText (instant : Instant) : List Char :=
  instant.localText ('.' :: padZeros 3 (instant.time.nanosecond.val / 1000000)) ++
    instant.offset.shortText

end Instant

def monthNames : List String :=
  ["January", "February", "March", "April", "May", "June", "July", "August", "September", "October",
    "November", "December"]

def weekdayNames : List String :=
  ["Monday", "Tuesday", "Wednesday", "Thursday", "Friday", "Saturday", "Sunday"]

def monthName (month : Nat) : List Char := (monthNames[month - 1]?.getD "").toList

def weekdayName (weekday : Weekday) : List Char := (weekdayNames[weekday.number]?.getD "").toList

/-- What a pattern can be filled from: a date alone, or an instant. -/
structure Moment where
  date : Date
  time : Option TimeOfDay
  offset : Option Offset

namespace Moment

def ofDate (date : Date) : Moment := ⟨date, none, none⟩

def ofInstant (instant : Instant) : Moment := ⟨instant.date, some instant.time, some instant.offset⟩

end Moment

/-- Two places for a number below 256. Tens past nine are written as one character each. -/
def twoPlaces (padding : Padding) (n : Nat) : List Char :=
  let ones := Char.ofNat ('0'.toNat + n % 10)
  match n / 10, padding with
  | 0, .none => [ones]
  | 0, .blank => [' ', ones]
  | tens, _ => [Char.ofNat ('0'.toNat + tens), ones]

namespace NumberField

/-- The text of a field of the date. -/
def writeDate? (date : Date) (padding : Padding) : NumberField → Option (List Char)
  | .year => some (yearText padding date.year)
  | .century => some (twoPlaces padding ((date.year.fdiv 100) % 256).toNat)
  | .yearOfCentury => some (twoPlaces padding (date.year % 100).toNat)
  | .isoYear => some (yearText padding date.isoWeek.1)
  | .isoYearOfCentury => some (twoPlaces padding (date.isoWeek.1 % 100).toNat)
  | .quarter => some (natText date.quarter)
  | .month => some (twoPlaces padding date.month)
  | .day => some (twoPlaces padding date.day)
  | .weekFromSunday => some (twoPlaces padding (date.weekFrom .sunday))
  | .weekFromMonday => some (twoPlaces padding (date.weekFrom .monday))
  | .isoWeek => some (twoPlaces padding date.isoWeek.2)
  | .daysFromSunday => some (natText (date.weekday.since .sunday))
  | .weekdayNumber => some (natText (date.weekday.number + 1))
  | .ordinal => some (padNumber padding 3 [] (natText date.ordinal))
  | _ => none

/-- The text of a field of the time. -/
def writeTime? (time : TimeOfDay) (padding : Padding) : NumberField → Option (List Char)
  | .hour => some (twoPlaces padding time.hour.val)
  | .clockHour => some (twoPlaces padding time.clockHour)
  | .minute => some (twoPlaces padding time.minute.val)
  | .second => some (twoPlaces padding time.second.val)
  | .nanosecond => some (padNumber padding 9 [] (natText time.nanosecond.val))
  | _ => none

def write? (moment : Moment) (padding : Padding) (field : NumberField) : Option (List Char) :=
  match field, moment.time with
  | .timestamp, some time =>
    let seconds := secondsSinceEpoch moment.date time - (moment.offset.map Offset.seconds).getD 0
    some (padNumber padding 9 (if seconds < 0 then ['-'] else []) (natText seconds.natAbs))
  | _, some time => (writeDate? moment.date padding field).or (writeTime? time padding field)
  | _, none => writeDate? moment.date padding field

end NumberField

namespace TextField

def write? (moment : Moment) : TextField → Option (List Char)
  | .shortMonth => some ((monthName moment.date.month).take 3)
  | .longMonth => some (monthName moment.date.month)
  | .shortWeekday => some ((weekdayName moment.date.weekday).take 3)
  | .longWeekday => some (weekdayName moment.date.weekday)
  | .lowerHalf => moment.time.map fun time => [if time.isAfternoon then 'p' else 'a', 'm']
  | .upperHalf => moment.time.map fun time => [if time.isAfternoon then 'P' else 'A', 'M']
  | .fraction => moment.time.map fun time => fractionText time.nanosecond.val
  | .fractionOf digits =>
    moment.time.map fun time => '.' :: padZeros digits (time.nanosecond.val / tenTo (9 - digits))
  | .digitsOf digits =>
    moment.time.map fun time => padZeros digits (time.nanosecond.val / tenTo (9 - digits))
  | .zoneName => moment.offset.map Offset.text
  | .offset style => moment.offset.bind (·.writeStyle style)
  | .standard => do
    let time ← moment.time
    let offset ← moment.offset
    pure (moment.date.text ++
      'T' :: (time.clockText ++ fractionText time.nanosecond.val ++ offset.text))

end TextField

def PatternItem.write? (moment : Moment) : PatternItem → Option (List Char)
  | .literal cs | .blank cs => some cs
  | .number field padding => field.write? moment padding
  | .text field => field.write? moment
  | .invalid => none

/-- The text of a moment after a pattern, when it has every field that the pattern asks for. -/
def Pattern.write? (pattern : Pattern) (moment : Moment) : Option (List Char) :=
  (pattern.items.mapM (PatternItem.write? moment)).map List.flatten

end AttrExpr
