import AttrExpr.Calendar.Date

/-! Times of day and instants: a date and a time at an offset from universal time. -/
set_option autoImplicit false

namespace AttrExpr

/-- A time of day. Second 60 is a leap second. -/
structure TimeOfDay where
  hour : Fin 24
  minute : Fin 60
  second : Fin 61
  nanosecond : Fin 1000000000
  deriving DecidableEq

namespace TimeOfDay

def midnight : TimeOfDay := ⟨0, 0, 0, 0⟩

def ofParts? (hour minute second nanosecond : Nat) : Option TimeOfDay :=
  if h : hour < 24 ∧ minute < 60 ∧ second < 61 ∧ nanosecond < 1000000000 then
    some ⟨⟨hour, h.1⟩, ⟨minute, h.2.1⟩, ⟨second, h.2.2.1⟩, ⟨nanosecond, h.2.2.2⟩⟩
  else none

def isLeapSecond (time : TimeOfDay) : Bool := time.second.val == 60

/-- Seconds since midnight. A leap second counts like the second before it. -/
def seconds (time : TimeOfDay) : Nat :=
  time.hour.val * 3600 + time.minute.val * 60 + min time.second.val 59

/-- The hour on a clock of twelve hours. -/
def clockHour (time : TimeOfDay) : Nat := (time.hour.val + 11) % 12 + 1

def isAfternoon (time : TimeOfDay) : Bool := 12 ≤ time.hour.val

end TimeOfDay

/-- How far local time is ahead of universal time: less than a day, in minutes. -/
structure Offset where
  minutes : Int
  within : -1440 < minutes ∧ minutes < 1440
  deriving DecidableEq

namespace Offset

def zero : Offset := ⟨0, by decide⟩

def ofMinutes? (minutes : Int) : Option Offset :=
  if h : -1440 < minutes ∧ minutes < 1440 then some ⟨minutes, h⟩ else none

def seconds (offset : Offset) : Int := offset.minutes * 60

end Offset

/-- Local seconds since the start of 1970-01-01. -/
def secondsSinceEpoch (date : Date) (time : TimeOfDay) : Int :=
  (date.dayNumber - 719163) * 86400 + time.seconds

/-- The number of the day that a count of seconds since the start of 1970-01-01 falls in. -/
def dayOfSeconds (seconds : Int) : Int := seconds.fdiv 86400 + 719163

/-- A local date and time with its offset; the date in universal time has to be a date as well. -/
structure Instant where
  date : Date
  time : TimeOfDay
  offset : Offset
  within : (Date.ofDayNumber? (dayOfSeconds (secondsSinceEpoch date time - offset.seconds))).isSome
  deriving DecidableEq

namespace Instant

def ofLocal? (date : Date) (time : TimeOfDay) (offset : Offset) : Option Instant :=
  if h : (Date.ofDayNumber?
      (dayOfSeconds (secondsSinceEpoch date time - offset.seconds))).isSome then
    some ⟨date, time, offset, h⟩
  else none

/-- The instant in universal time that is some nanoseconds after the start of 1970-01-01. -/
def ofNanoseconds? (n : Int) : Option Instant := do
  let seconds := n.fdiv 1000000000
  let second := (seconds % 86400).toNat
  let date ← Date.ofDayNumber? (dayOfSeconds seconds)
  let time ← TimeOfDay.ofParts? (second / 3600) (second / 60 % 60) (second % 60)
    (n % 1000000000).toNat
  ofLocal? date time .zero

/-- Seconds since the start of 1970-01-01 in universal time. -/
def timestamp (instant : Instant) : Int :=
  secondsSinceEpoch instant.date instant.time - instant.offset.seconds

/-- Two instants are the same moment, whatever their offsets. -/
def eq (a b : Instant) : Bool :=
  a.timestamp == b.timestamp && a.time.isLeapSecond == b.time.isLeapSecond &&
    a.time.nanosecond == b.time.nanosecond

end Instant

end AttrExpr
